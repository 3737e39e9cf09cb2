import Mathlib

/-!
# Byte streams that arrive in chunks

A reader sees a stream as chunks of at least one byte and then an end, which is
either the regular one or a failure.  One `read` hands out at most what the
first chunk holds.  Filling a buffer repeats `read`; what it returns depends only
on the bytes of the stream and not on where the chunks are cut.
-/

namespace NexusCua.Foundation

/-! ## Four-byte words -/

def toBeBytes (n : Nat) : List UInt8 :=
  [UInt8.ofNat (n / 2 ^ 24), UInt8.ofNat (n / 2 ^ 16), UInt8.ofNat (n / 2 ^ 8), UInt8.ofNat n]

def ofBeBytes (bytes : List UInt8) : Nat :=
  bytes.foldl (fun n byte => n * 256 + byte.toNat) 0

@[simp] theorem length_toBeBytes (n : Nat) : (toBeBytes n).length = 4 := rfl

theorem ofBeBytes_toBeBytes {n : Nat} (hn : n < 2 ^ 32) : ofBeBytes (toBeBytes n) = n := by
  simp only [toBeBytes, ofBeBytes, List.foldl_cons, List.foldl_nil, UInt8.toNat_ofNat']
  omega

/-! ## Sources -/

inductive IoErrorKind where
  | unexpectedEof
  | notFound
  | alreadyExists
  | permissionDenied
  | other
  deriving DecidableEq, Repr

structure IoError where
  kind : IoErrorKind
  text : String
  deriving DecidableEq, Repr

structure Chunk where
  bytes : List UInt8
  ne_nil : bytes ≠ []
  deriving DecidableEq, Repr

inductive Ending where
  | eof
  | failed (error : IoError)
  deriving DecidableEq, Repr

def earlyEof : IoError := ⟨.unexpectedEof, "early eof"⟩

def Ending.error : Ending → IoError
  | .eof => earlyEof
  | .failed error => error

structure ByteSource where
  chunks : List Chunk
  ending : Ending
  deriving DecidableEq, Repr

namespace ByteSource

def bytes (source : ByteSource) : List UInt8 := source.chunks.flatMap Chunk.bytes

/-- One read into a buffer of `n` bytes; nothing when only the end is left. -/
def read (n : Nat) (source : ByteSource) : Option (List UInt8 × ByteSource) :=
  match source.chunks with
  | [] => none
  | chunk :: rest =>
      some (chunk.bytes.take n,
        if h : chunk.bytes.drop n = [] then { source with chunks := rest }
        else { source with chunks := ⟨chunk.bytes.drop n, h⟩ :: rest })

/-- What filling a buffer has read, the end it met when that is too little, and
what is left of the stream. -/
structure Filled where
  bytes : List UInt8
  stop : Option Ending
  source : ByteSource
  deriving DecidableEq, Repr

/-- Reads until `n` bytes are there.  A read returns at least one byte, so `n`
reads are enough. -/
def fillWithin : Nat → Nat → ByteSource → Filled
  | _, 0, source => ⟨[], none, source⟩
  | 0, _ + 1, source => ⟨[], some source.ending, source⟩
  | reads + 1, n + 1, source =>
      match source.read (n + 1) with
      | none => ⟨[], some source.ending, source⟩
      | some (bytes, source) =>
          let rest := fillWithin reads (n + 1 - bytes.length) source
          { rest with bytes := bytes ++ rest.bytes }

def fill (n : Nat) (source : ByteSource) : Filled := fillWithin n n source

variable {n : Nat} {source : ByteSource}

theorem read_none (h : source.read n = none) :
    source = ⟨[], source.ending⟩ := by
  obtain ⟨_ | ⟨chunk, rest⟩, ending⟩ := source
  · rfl
  · simp [read] at h

theorem read_some {source source' : ByteSource} {bytes : List UInt8}
    (h : source.read (n + 1) = some (bytes, source')) :
    source.bytes = bytes ++ source'.bytes ∧ source'.ending = source.ending ∧
      0 < bytes.length ∧ bytes.length ≤ n + 1 := by
  obtain ⟨_ | ⟨chunk, rest⟩, ending⟩ := source
  · simp [read] at h
  · simp only [read, Option.some.injEq, Prod.mk.injEq] at h
    obtain ⟨rfl, rfl⟩ := h
    have hpos : 0 < chunk.bytes.length := List.length_pos_iff.mpr chunk.ne_nil
    have hlength : 0 < (chunk.bytes.take (n + 1)).length ∧
        (chunk.bytes.take (n + 1)).length ≤ n + 1 := by
      rw [List.length_take]
      omega
    split
    case isTrue hdrop =>
      have htake : chunk.bytes.take (n + 1) = chunk.bytes := by
        rw [← List.append_nil (List.take _ _), ← hdrop, List.take_append_drop]
      exact ⟨by simp [ByteSource.bytes, htake], rfl, hlength⟩
    case isFalse hdrop =>
      refine ⟨?_, rfl, hlength⟩
      simp only [ByteSource.bytes, List.flatMap_cons]
      rw [← List.append_assoc, List.take_append_drop]

theorem fillWithin_enough : ∀ {reads n : Nat} {source : ByteSource}, n ≤ reads →
    n ≤ source.bytes.length →
    ∃ rest, fillWithin reads n source = ⟨source.bytes.take n, none, rest⟩ ∧
      rest.bytes = source.bytes.drop n ∧ rest.ending = source.ending
  | reads, 0, source, _, _ => ⟨source, by simp [fillWithin]⟩
  | 0, n + 1, source, hreads, _ => by omega
  | reads + 1, n + 1, source, hreads, hbytes => by
      rw [fillWithin]
      cases hread : source.read (n + 1) with
      | none =>
        rw [read_none hread] at hbytes
        simp [ByteSource.bytes] at hbytes
      | some result =>
        obtain ⟨bytes, source'⟩ := result
        obtain ⟨happend, hending, hpos, hle⟩ := read_some hread
        rw [happend, List.length_append] at hbytes
        obtain ⟨rest, hfill, hrest, hends⟩ :=
          fillWithin_enough (show n + 1 - bytes.length ≤ reads by omega)
            (show n + 1 - bytes.length ≤ source'.bytes.length by omega)
        refine ⟨rest, ?_, ?_, hends.trans hending⟩
        · simp only [hfill, happend, List.take_append, List.take_of_length_le hle]
        · rw [hrest, happend, List.drop_append, List.drop_eq_nil_of_le hle, List.nil_append]

theorem fillWithin_short : ∀ {reads n : Nat} {source : ByteSource}, n ≤ reads →
    source.bytes.length < n →
    fillWithin reads n source = ⟨source.bytes, some source.ending, ⟨[], source.ending⟩⟩
  | 0, _, source, hreads, hbytes => by omega
  | reads + 1, 0, source, _, hbytes => by omega
  | reads + 1, n + 1, source, hreads, hbytes => by
      rw [fillWithin]
      cases hread : source.read (n + 1) with
      | none =>
        rw [read_none hread]
        rfl
      | some result =>
        obtain ⟨bytes, source'⟩ := result
        obtain ⟨happend, hending, hpos, hle⟩ := read_some hread
        rw [happend, List.length_append] at hbytes
        have hfill := fillWithin_short (show n + 1 - bytes.length ≤ reads by omega)
          (show source'.bytes.length < n + 1 - bytes.length by omega)
        simp only [hfill, happend, hending]

theorem fill_enough (h : n ≤ source.bytes.length) :
    ∃ rest, source.fill n = ⟨source.bytes.take n, none, rest⟩ ∧
      rest.bytes = source.bytes.drop n ∧ rest.ending = source.ending :=
  fillWithin_enough (Nat.le_refl n) h

theorem fill_short (h : source.bytes.length < n) :
    source.fill n = ⟨source.bytes, some source.ending, ⟨[], source.ending⟩⟩ :=
  fillWithin_short (Nat.le_refl n) h

def readExact (n : Nat) (source : ByteSource) : Except IoError (List UInt8) × ByteSource :=
  let filled := source.fill n
  match filled.stop with
  | none => (.ok filled.bytes, filled.source)
  | some ending => (.error ending.error, filled.source)

theorem readExact_enough (h : n ≤ source.bytes.length) :
    ∃ rest, source.readExact n = (.ok (source.bytes.take n), rest) ∧
      rest.bytes = source.bytes.drop n ∧ rest.ending = source.ending := by
  obtain ⟨rest, hfill, hrest, hending⟩ := fill_enough h
  exact ⟨rest, by simp only [readExact, hfill], hrest, hending⟩

theorem readExact_short (h : source.bytes.length < n) :
    source.readExact n = (.error source.ending.error, ⟨[], source.ending⟩) := by
  simp only [readExact, fill_short h]

end ByteSource

/-! ## Sinks -/

/-- What was written so far, and how many more bytes are taken before a write
fails, if one ever does. -/
structure ByteSink where
  written : List UInt8
  room : Option Nat
  error : IoError
  deriving DecidableEq, Repr

namespace ByteSink

def append (sink : ByteSink) (bytes : List UInt8) : ByteSink :=
  { sink with written := sink.written ++ bytes }

@[simp] theorem room_append (sink : ByteSink) (bytes : List UInt8) :
    (sink.append bytes).room = sink.room := rfl

@[simp] theorem append_nil (sink : ByteSink) : sink.append [] = sink := by
  simp [append]

@[simp] theorem append_append (sink : ByteSink) (bytes more : List UInt8) :
    (sink.append bytes).append more = sink.append (bytes ++ more) := by
  simp [append]

def writeAll (bytes : List UInt8) (sink : ByteSink) : Except IoError Unit × ByteSink :=
  match sink.room with
  | none => (.ok (), sink.append bytes)
  | some room =>
      if bytes.length ≤ room then
        (.ok (), { sink.append bytes with room := some (room - bytes.length) })
      else (.error sink.error, { sink.append (bytes.take room) with room := some 0 })

theorem writeAll_of_room_none {sink : ByteSink} (h : sink.room = none) (bytes : List UInt8) :
    sink.writeAll bytes = (.ok (), sink.append bytes) := by
  rw [writeAll, h]

end ByteSink

end NexusCua.Foundation
