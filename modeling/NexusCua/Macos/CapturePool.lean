import NexusCua.Macos.Capture

/-!
# The pool of warm streams

Whatever the order of captures, prunes, sessions and native failures, the actor holds at
most two streams and one for a target, the owners of a stream are sessions that asked for
its target, and a session gets pixels only while it is live.
-/

namespace NexusCua.Macos

open NexusCua.Foundation NexusCua.Protocol NexusCua.Runtime

/-! ## The streams -/

structure StreamsSound (captured : List (String × String)) (streams : List WarmStream) : Prop where
  few : streams.length ≤ maxStreams
  distinct : (streams.map WarmStream.targetKey).Nodup
  owners : ∀ stream ∈ streams, ∀ id ∈ stream.owners, (id, stream.targetKey) ∈ captured

namespace StreamsSound

variable {captured captured' : List (String × String)} {streams streams' : List WarmStream}

theorem nil : StreamsSound captured [] :=
  ⟨Nat.zero_le _, List.nodup_nil, by simp⟩

section

variable (h : StreamsSound captured streams)
include h

theorem mono (hcaptured : captured ⊆ captured') :
    StreamsSound captured' streams :=
  ⟨h.few, h.distinct, fun stream hstream id hid => hcaptured (h.owners stream hstream id hid)⟩

theorem sublist (hsub : streams'.Sublist streams) :
    StreamsSound captured streams' :=
  ⟨hsub.length_le.trans h.few, h.distinct.sublist (hsub.map _),
    fun stream hstream => h.owners stream (hsub.subset hstream)⟩

theorem map {f : WarmStream → WarmStream}
    (hkey : ∀ stream, (f stream).targetKey = stream.targetKey)
    (howners : ∀ stream ∈ streams, ∀ id ∈ (f stream).owners,
      (id, stream.targetKey) ∈ captured) : StreamsSound captured (streams.map f) := by
  refine ⟨by simpa using h.few, ?_, ?_⟩
  · have hkeys : WarmStream.targetKey ∘ f = WarmStream.targetKey := funext hkey
    rw [List.map_map, hkeys]
    exact h.distinct
  · intro stream' hstream' id hid
    obtain ⟨stream, hstream, rfl⟩ := List.mem_map.mp hstream'
    rw [hkey]
    exact howners stream hstream id hid

theorem prune (active : Finset String) (now : Nat) :
    StreamsSound captured (pruneStreams active now streams) := by
  refine StreamsSound.sublist (h.map ?_ ?_) List.filter_sublist
  · intro stream
    rfl
  · intro stream hstream id hid
    exact h.owners stream hstream id (Finset.mem_filter.mp hid).1

end

end StreamsSound

variable {streams : List WarmStream}

theorem hasStream_eq_false_iff {targetKey : String} :
    hasStream streams targetKey = false ↔ ∀ stream ∈ streams, stream.targetKey ≠ targetKey := by
  simp [hasStream]

variable {now : Nat}

theorem pruneStreams_owned {active : Finset String} :
    ∀ stream ∈ pruneStreams active now streams, stream.owners ≠ ∅ ∧ stream.owners ⊆ active := by
  intro stream hstream
  rw [pruneStreams, List.mem_filter] at hstream
  obtain ⟨hmem, hkept⟩ := hstream
  obtain ⟨original, -, rfl⟩ := List.mem_map.mp hmem
  have hkept := (of_decide_eq_true hkept).1
  exact ⟨hkept, fun id hid => (Finset.mem_filter.mp hid).2⟩

theorem removeOutdated_sublist (request : CaptureRequest) (stopped : Bool)
    (streams : List WarmStream) :
    (removeOutdated request stopped streams).1.Sublist streams := by
  rw [removeOutdated]
  split
  · exact List.Sublist.refl _
  · split
    · exact List.eraseP_sublist
    · exact List.Sublist.refl _

theorem makeRoom_sublist (streams : List WarmStream) : (makeRoom streams).Sublist streams := by
  rw [makeRoom]
  split
  · split
    · exact List.erase_sublist
    · exact List.Sublist.refl _
  · exact List.Sublist.refl _

theorem makeRoom_length (h : streams.length ≤ maxStreams) :
    (makeRoom streams).length < maxStreams := by
  rw [makeRoom]
  split
  case isTrue hfull =>
    split
    case h_1 oldest holdest =>
      rw [List.length_erase_of_mem (List.argmin_mem holdest)]
      simp only [maxStreams] at h hfull ⊢
      omega
    case h_2 hnone =>
      rw [List.argmin_eq_none.mp hnone]
      decide
  case isFalse hroom => omega

theorem vacate_sublist (request : CaptureRequest) (stopped : Bool) (streams : List WarmStream) :
    (vacate request stopped streams).1.Sublist streams := by
  simp only [vacate]
  split
  · exact removeOutdated_sublist request stopped streams
  · exact (makeRoom_sublist _).trans (removeOutdated_sublist request stopped streams)

variable {request : CaptureRequest}

theorem vacate_length {stopped : Bool}
    (hfew : streams.length ≤ maxStreams)
    (hnone : hasStream (vacate request stopped streams).1 request.targetKey = false) :
    (vacate request stopped streams).1.length < maxStreams := by
  simp only [vacate] at hnone ⊢
  split
  case isTrue hhas =>
    rw [if_pos hhas, hhas] at hnone
    cases hnone
  case isFalse =>
    exact makeRoom_length ((removeOutdated_sublist request stopped streams).length_le.trans hfew)

variable {captured : List (String × String)}

theorem vacate_owners
    {stopped : Bool} (h : StreamsSound captured streams) :
    ∀ id ∈ (vacate request stopped streams).2, (id, request.targetKey) ∈ captured := by
  have howners : ∀ id ∈ (removeOutdated request stopped streams).2,
      (id, request.targetKey) ∈ captured := by
    rw [removeOutdated]
    split
    · simp
    case h_2 stream hfind =>
      split
      · intro id hid
        have hkey : stream.targetKey = request.targetKey := by
          simpa using List.find?_some hfind
        rw [← hkey]
        exact h.owners stream (List.mem_of_find?_eq_some hfind) id hid
      · simp
  simp only [vacate]
  split <;> exact howners

theorem own_owners
    {stream : WarmStream} (hkey : stream.targetKey = request.targetKey)
    (hasked : ∀ id, request.sessionId = some id → (id, request.targetKey) ∈ captured)
    (howners : ∀ id ∈ stream.owners, (id, stream.targetKey) ∈ captured) :
    ∀ id ∈ (own request now stream).owners, (id, stream.targetKey) ∈ captured := by
  intro id hid
  rw [own] at hid
  cases hsession : request.sessionId with
  | none =>
    rw [hsession] at hid
    exact howners id hid
  | some session =>
    rw [hsession] at hid
    rcases Finset.mem_insert.mp hid with rfl | hid
    · rw [hkey]
      exact hasked id hsession
    · exact howners id hid

theorem map_targetKey_useStream (request : CaptureRequest) (now : Nat)
    (streams : List WarmStream) : (useStream request now streams).map WarmStream.targetKey =
      streams.map WarmStream.targetKey := by
  induction streams with
  | nil => rfl
  | cons stream streams ih =>
    rw [useStream]
    split
    · rfl
    · rw [List.map_cons, List.map_cons, ih]

theorem useStream_owners
    (hasked : ∀ id, request.sessionId = some id → (id, request.targetKey) ∈ captured)
    (h : ∀ stream ∈ streams, ∀ id ∈ stream.owners, (id, stream.targetKey) ∈ captured) :
    ∀ stream ∈ useStream request now streams, ∀ id ∈ stream.owners,
      (id, stream.targetKey) ∈ captured := by
  induction streams with
  | nil => exact h
  | cons stream streams ih =>
    have hrest := fun other hother => h other (List.mem_cons_of_mem _ hother)
    rw [useStream]
    split
    case isTrue hkey =>
      intro other hother
      rcases List.mem_cons.mp hother with rfl | hother
      · exact own_owners hkey hasked (h stream List.mem_cons_self)
      · exact hrest other hother
    case isFalse =>
      intro other hother
      rcases List.mem_cons.mp hother with rfl | hother
      · exact h other List.mem_cons_self
      · exact ih hrest other hother

namespace StreamsSound

variable {captured : List (String × String)} {streams : List WarmStream}

theorem use (h : StreamsSound captured streams)
    (hasked : ∀ id, request.sessionId = some id → (id, request.targetKey) ∈ captured)
    (now : Nat) : StreamsSound captured (useStream request now streams) := by
  have hkeys := map_targetKey_useStream request now streams
  have hlength : (useStream request now streams).length = streams.length := by
    simpa using congrArg List.length hkeys
  exact ⟨hlength ▸ h.few, hkeys ▸ h.distinct, useStream_owners hasked h.owners⟩

theorem push (h : StreamsSound captured streams) {stream : WarmStream}
    (hroom : streams.length < maxStreams)
    (hnone : hasStream streams stream.targetKey = false)
    (howners : ∀ id ∈ stream.owners, (id, stream.targetKey) ∈ captured) :
    StreamsSound captured (streams ++ [stream]) := by
  refine ⟨?_, ?_, ?_⟩
  · rw [List.length_append, List.length_singleton]
    exact hroom
  · rw [List.map_append, List.map_singleton, List.nodup_append]
    refine ⟨h.distinct, List.nodup_singleton _, ?_⟩
    intro key hkey other hother heq
    obtain ⟨held, hheld, rfl⟩ := List.mem_map.mp hkey
    rw [List.mem_singleton.mp hother] at heq
    exact hasStream_eq_false_iff.mp hnone held hheld heq
  · intro other hother
    rcases List.mem_append.mp hother with hother | hother
    · exact h.owners other hother
    · rw [List.mem_singleton.mp hother]
      exact howners

end StreamsSound

/-! ## The actor -/

def Asked (captured : List (String × String)) (request : CaptureRequest) : Prop :=
  ∀ id, request.sessionId = some id → (id, request.targetKey) ∈ captured

def LiveIn (live : Finset String) (request : CaptureRequest) : Prop :=
  ∀ id, request.sessionId = some id → id ∈ live

def PhaseSound (captured : List (String × String)) (streams : List WarmStream) :
    CapturePhase → Prop
  | .idle => True
  | .pruned => True
  | .received request => Asked captured request
  | .checked request liveBefore => Asked captured request ∧ LiveIn liveBefore request
  | .vacated request liveBefore owners =>
    Asked captured request ∧ LiveIn liveBefore request ∧
      (hasStream streams request.targetKey = false → streams.length < maxStreams) ∧
      ∀ id ∈ owners, (id, request.targetKey) ∈ captured
  | .started request liveBefore => Asked captured request ∧ LiveIn liveBefore request
  | .framed request liveBefore _ => Asked captured request ∧ LiveIn liveBefore request

/-- A session gets pixels only if it was live before and after the frame was read. -/
def RepliesSound (replies : List CaptureReply) : Prop :=
  ∀ reply ∈ replies, ∀ image, reply.result = .ok image →
    LiveIn reply.liveBefore reply.request ∧ LiveIn reply.liveAfter reply.request

structure PoolSound (state : CaptureState) : Prop where
  streams : StreamsSound state.captured state.streams
  replies : RepliesSound state.replies
  phase : PhaseSound state.captured state.streams state.phase

theorem poolSound_initial : PoolSound CaptureState.initial :=
  ⟨StreamsSound.nil, by simp [RepliesSound, CaptureState.initial], trivial⟩

theorem liveIn_of_authorized {state : CaptureState}
    (h : state.authorized request = true) : LiveIn state.live request := by
  intro id hid
  rw [CaptureState.authorized, hid] at h
  exact of_decide_eq_true h

theorem PoolSound.reply {state : CaptureState}
    (hstreams : StreamsSound state.captured state.streams)
    (hreplies : RepliesSound state.replies) {liveBefore : Finset String}
    {result : Except DriverError RgbaImage}
    (hresult : ∀ image, result = .ok image →
      LiveIn liveBefore request ∧ LiveIn state.live request) :
    PoolSound (state.reply request liveBefore result) := by
  refine ⟨hstreams, ?_, trivial⟩
  intro reply hreply
  rcases List.mem_append.mp hreply with hreply | hreply
  · exact hreplies reply hreply
  · rw [List.mem_singleton.mp hreply]
    exact hresult

/-! ### Steps -/

section Steps

variable {state state' : CaptureState} {request : CaptureRequest} {liveBefore : Finset String}

section

variable (h : PoolSound state)
include h

theorem PoolSound.elsewhere (now : Nat) (live : Finset String) :
    PoolSound { state with now := now, live := live } :=
  ⟨h.streams, h.replies, h.phase⟩

theorem PoolSound.sessionStarted (id : String) :
    PoolSound (state.sessionStarted id) := by
  rw [CaptureState.sessionStarted]
  split
  · exact h
  · exact h.elsewhere state.now _

theorem PoolSound.prune : PoolSound state.prune :=
  ⟨h.streams.prune _ _, h.replies, trivial⟩

theorem PoolSound.receive (request : CaptureRequest) :
    PoolSound (state.receive request) := by
  cases hsession : request.sessionId with
  | none =>
    simp only [CaptureState.receive, hsession]
    refine ⟨h.streams, h.replies, ?_⟩
    intro id hid
    rw [hsession] at hid
    cases hid
  | some session =>
    simp only [CaptureState.receive, hsession]
    refine ⟨h.streams.mono (List.subset_cons_self _ _), h.replies, ?_⟩
    intro id hid
    rw [hsession] at hid
    obtain rfl := Option.some.inj hid
    exact List.mem_cons_self

theorem PoolSound.captureTarget
    (hway : state.usesStreams request = false) (result : Except DriverError RgbaImage) :
    PoolSound (state.reply request state.live result) := by
  have hsession : request.sessionId = none := by
    simpa using (Bool.or_eq_false_iff.mp hway).1
  have hlive : ∀ live, LiveIn live request := by
    intro live id hid
    rw [hsession] at hid
    cases hid
  exact .reply h.streams h.replies fun image _ => ⟨hlive _, hlive _⟩

theorem PoolSound.check (hasked : Asked state.captured request) :
    PoolSound (state.check request) := by
  rw [CaptureState.check]
  split
  case isTrue hauthorized =>
    exact ⟨h.streams, h.replies, hasked, liveIn_of_authorized hauthorized⟩
  case isFalse => exact .reply h.streams h.replies (by simp)

theorem PoolSound.vacate (hasked : Asked state.captured request)
    (hlive : LiveIn liveBefore request) (stopped : Bool) :
    PoolSound (state.vacate request liveBefore stopped) :=
  ⟨h.streams.sublist (vacate_sublist request stopped state.streams), h.replies, hasked, hlive,
    vacate_length h.streams.few, vacate_owners h.streams⟩

theorem PoolSound.start {owners : Finset String}
    (hphase : PhaseSound state.captured state.streams (.vacated request liveBefore owners))
    (result : Except DriverError Unit) :
    PoolSound (state.start request liveBefore owners result) := by
  obtain ⟨hasked, hlive, hroom, howners⟩ := hphase
  unfold CaptureState.start
  split
  case isTrue => exact ⟨h.streams, h.replies, hasked, hlive⟩
  case isFalse hnone =>
    have hnone : hasStream state.streams request.targetKey = false := Bool.eq_false_iff.mpr hnone
    split
    · exact .reply h.streams h.replies (by simp)
    · exact ⟨h.streams.push (hroom hnone) hnone howners, h.replies, hasked, hlive⟩

theorem PoolSound.read (hasked : Asked state.captured request)
    (hlive : LiveIn liveBefore request) (answer : FrameAnswer) :
    PoolSound (state.read request liveBefore answer) := by
  have hused := h.streams.use hasked state.now
  unfold CaptureState.read
  split
  · exact ⟨hused, h.replies, hasked, hlive⟩
  · exact ⟨hused, h.replies, hasked, hlive⟩
  · apply PoolSound.reply
    · exact hused
    · exact h.replies
    · simp
  · apply PoolSound.reply
    · exact hused.sublist List.filter_sublist
    · exact h.replies
    · simp

theorem PoolSound.deliver (hlive : LiveIn liveBefore request)
    (image : RgbaImage) : PoolSound (state.deliver request liveBefore image) := by
  rw [CaptureState.deliver]
  split
  case isTrue hauthorized =>
    exact .reply h.streams h.replies fun _ _ => ⟨hlive, liveIn_of_authorized hauthorized⟩
  case isFalse => exact .reply h.streams h.replies (by simp)

theorem PoolSound.step {event : CaptureEvent}
    (hstep : state.step event = some state') : PoolSound state' := by
  have hphase := h.phase
  simp only [CaptureState.step] at hstep
  split at hstep
  case h_1 _ id =>
    obtain rfl := Option.some.inj hstep
    exact h.sessionStarted id
  case h_2 =>
    obtain rfl := Option.some.inj hstep
    exact h.elsewhere state.now _
  case h_3 =>
    obtain rfl := Option.some.inj hstep
    exact h.elsewhere _ state.live
  case h_4 =>
    obtain rfl := Option.some.inj hstep
    exact h.prune
  case h_5 =>
    obtain rfl := Option.some.inj hstep
    exact h.prune
  case h_6 request _ =>
    obtain rfl := Option.some.inj hstep
    exact h.receive request
  case h_7 =>
    obtain rfl := Option.some.inj hstep
    exact ⟨h.streams, h.replies, trivial⟩
  case h_8 result request hat =>
    split at hstep
    · cases hstep
    case isFalse hway =>
      obtain rfl := Option.some.inj hstep
      exact h.captureTarget (Bool.eq_false_iff.mpr hway) result
  case h_9 request hat =>
    rw [hat] at hphase
    split at hstep
    · obtain rfl := Option.some.inj hstep
      exact h.check hphase
    · cases hstep
  case h_10 stopped request liveBefore hat =>
    rw [hat] at hphase
    obtain rfl := Option.some.inj hstep
    exact h.vacate hphase.1 hphase.2 stopped
  case h_11 result request liveBefore owners hat =>
    rw [hat] at hphase
    obtain rfl := Option.some.inj hstep
    exact h.start hphase result
  case h_12 answer request liveBefore hat =>
    rw [hat] at hphase
    obtain rfl := Option.some.inj hstep
    exact h.read hphase.1 hphase.2 answer
  case h_13 request liveBefore image hat =>
    rw [hat] at hphase
    obtain rfl := Option.some.inj hstep
    exact h.deliver hphase.2 image
  case h_14 => cases hstep

theorem PoolSound.run {events : List CaptureEvent}
    (hrun : state.run events = some state') : PoolSound state' := by
  induction events generalizing state with
  | nil =>
    obtain rfl := Option.some.inj hrun
    exact h
  | cons event events ih =>
    rw [CaptureState.run, List.foldlM_cons] at hrun
    obtain ⟨next, hstep, hrest⟩ := Option.bind_eq_some_iff.mp hrun
    exact ih (h.step hstep) hrest

end

end Steps

theorem step_prune {state state' : CaptureState} (h : state.step .prune = some state') :
    state' = state.prune := by
  cases hphase : state.phase <;> simp_all [CaptureState.step]

/-- In every state that is reached the actor holds at most two streams and one for a
target, all owners have asked for the target of their stream, and a session has got
pixels only while it was live; a prune leaves streams with live owners only. -/
theorem warm_streams_sound {events : List CaptureEvent} {state : CaptureState}
    (hrun : CaptureState.initial.run events = some state) :
    state.streams.length ≤ 2 ∧
      (state.streams.map WarmStream.targetKey).Nodup ∧
      (∀ stream ∈ state.streams, ∀ id ∈ stream.owners, (id, stream.targetKey) ∈ state.captured) ∧
      (∀ reply ∈ state.replies, ∀ image, reply.result = .ok image →
        ∀ id, reply.request.sessionId = some id → id ∈ reply.liveBefore ∧ id ∈ reply.liveAfter) ∧
      ∀ state', state.step .prune = some state' → ∀ stream ∈ state'.streams,
        stream.owners.Nonempty ∧ stream.owners ⊆ state'.live := by
  have hsound := poolSound_initial.run hrun
  refine ⟨hsound.streams.few, hsound.streams.distinct, hsound.streams.owners, ?_, ?_⟩
  · intro reply hreply image hok id hid
    obtain ⟨hbefore, hafter⟩ := hsound.replies reply hreply image hok
    exact ⟨hbefore id hid, hafter id hid⟩
  · intro state' hprune stream hstream
    obtain rfl := step_prune hprune
    obtain ⟨howned, hlive⟩ := pruneStreams_owned stream hstream
    exact ⟨Finset.nonempty_iff_ne_empty.mpr howned, hlive⟩

def captureOf (id targetKey : String) (stopped : Bool) : List CaptureEvent :=
  [.prune, .receive ⟨some id, targetKey, ⟨0, 0, 640, 480⟩⟩, .check, .vacate stopped,
    .start (.ok ()), .read (.image ⟨1, 1, [0, 0, 0, 255]⟩), .deliver, .elapse 1]

/-- The stream of the first window has stopped and is replaced, and a third window takes
the place of the second. -/
def fourCaptures : List CaptureEvent :=
  [.sessionStarted "one", .sessionStarted "two"] ++ captureOf "one" "window:7" false ++
    captureOf "two" "window:8" false ++ captureOf "two" "window:7" true ++
    captureOf "one" "window:9" false ++ [.sessionClosed "one"]

theorem fourCaptures_run : (CaptureState.initial.run fourCaptures).isSome = true := by decide

theorem warm_streams_sound_fourCaptures :
    ∃ state, CaptureState.initial.run fourCaptures = some state ∧
      state.streams.map (fun stream => (stream.targetKey, stream.owners)) =
        [("window:7", {"one", "two"}), ("window:9", {"one"})] ∧
      (∀ stream ∈ state.streams, ∀ id ∈ stream.owners, (id, stream.targetKey) ∈ state.captured) ∧
      (∀ reply ∈ state.replies, ∀ image, reply.result = .ok image →
        ∀ id, reply.request.sessionId = some id → id ∈ reply.liveBefore ∧ id ∈ reply.liveAfter) ∧
      ∃ state', state.step .prune = some state' ∧ state'.streams.length = 1 ∧
        ∀ stream ∈ state'.streams, stream.owners.Nonempty ∧ stream.owners ⊆ state'.live := by
  have hrun := (Option.some_get fourCaptures_run).symm
  obtain ⟨-, -, howners, hreplies, hpruned⟩ := warm_streams_sound hrun
  exact ⟨_, hrun, by decide, howners, hreplies, _, rfl, by decide, hpruned _ rfl⟩

end NexusCua.Macos
