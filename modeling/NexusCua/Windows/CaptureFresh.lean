import NexusCua.Windows.Capture

/-!
# Captured images are fresh

A command that starts after a mutation is answered with pixels of a session that was
started after it.  The label of a pipeline never exceeds the number of invalidations
before its session was started, so that a pipeline with the current label is young
enough.  This holds until the counter of the generation wraps around.
-/

namespace NexusCua.Windows

open NexusCua.Foundation NexusCua.Protocol NexusCua.Runtime

/-! ## The map of pipelines -/

theorem evictOldest_shrinks (order : List (String × CapturePipeline)) (pipelines : Pipelines) :
    pipelines.Shrinks (evictOldest order pipelines) := by
  rw [evictOldest]
  split
  · split
    · exact .erase _ _
    · exact .refl _
  · exact .refl _

variable {order : List (String × CapturePipeline)} {pipelines : Pipelines}

theorem size_evictOldest_lt
    (horder : order.Perm pipelines.toList) (hsize : pipelines.size ≤ maxPipelines) :
    (evictOldest order pipelines).size < maxPipelines := by
  rw [evictOldest]
  split
  case isFalse hroom => exact Nat.lt_of_not_le hroom
  case isTrue hfull =>
    split
    case h_1 oldest holdest =>
      have hmem : (oldest.1, oldest.2) ∈ pipelines.toList :=
        horder.mem_iff.mp (List.argmin_mem holdest)
      have hcount := Table.count_erase_of_lookup ((Table.mem_toList_iff _ _ _).mp hmem)
        fun _ => true
      rw [← Table.size_eq_count, ← Table.size_eq_count, if_pos rfl] at hcount
      omega
    case h_2 hnone =>
      have hlength := horder.length_eq
      rw [List.argmin_eq_none.mp hnone, Table.length_toList, List.length_nil] at hlength
      rw [← hlength] at hfull
      exact absurd hfull (by decide)

/-- What `ensure_pipeline` can do to the map. -/
inductive Ensured (targetKey : String) (startedAfter now : Nat) (pipelines : Pipelines) :
    Except DriverError Unit → Pipelines → Prop where
  | present {pipeline : CapturePipeline} (hlookup : pipelines.lookup targetKey = some pipeline) :
      Ensured targetKey startedAfter now pipelines (.ok ()) pipelines
  | refused {kept : Pipelines} (hkept : pipelines.Shrinks kept) (error : DriverError) :
      Ensured targetKey startedAfter now pipelines (.error error) kept
  | started {kept : Pipelines} (hkept : pipelines.Shrinks kept) (hroom : kept.size < maxPipelines)
      (size : NativeSize) :
      Ensured targetKey startedAfter now pipelines (.ok ())
        (kept.insert targetKey ⟨size, startedAfter, none, 0, now⟩)

theorem ensurePipeline_ensured {targetKey : String} {answers : SessionAnswers}
    {startedAfter now : Nat}
    (horder : order.Perm pipelines.toList) (hsize : pipelines.size ≤ maxPipelines) :
    Ensured targetKey startedAfter now pipelines
      (ensurePipeline targetKey answers order startedAfter now pipelines).1
      (ensurePipeline targetKey answers order startedAfter now pipelines).2 := by
  rw [ensurePipeline]
  split
  case h_1 pipeline hlookup => exact .present hlookup
  case h_2 =>
    dsimp only
    split
    case h_1 error _ => exact .refused (evictOldest_shrinks order pipelines) error
    case h_2 size _ =>
      exact .started (evictOldest_shrinks order pipelines) (size_evictOldest_lt horder hsize) size

theorem dropOutdated_shrinks (targetKey : String) (generation : UInt64) (pipelines : Pipelines) :
    pipelines.Shrinks (dropOutdated targetKey generation pipelines) := by
  rw [dropOutdated]
  split
  · exact .refl _
  · split
    · exact .erase _ _
    · exact .refl _

variable {pipeline : CapturePipeline} {generation : UInt64}

theorem latestGeneration_of_dropOutdated {targetKey : String}
    (h : (dropOutdated targetKey generation pipelines).lookup targetKey = some pipeline) :
    pipeline.latestGeneration = generation := by
  rw [dropOutdated] at h
  split at h
  case h_1 hnone =>
    rw [hnone] at h
    cases h
  case h_2 old hold =>
    split at h
    · simp at h
    case isFalse hlabel =>
      rw [hold, Option.some.injEq] at h
      subst h
      exact not_not.mp hlabel

/-! ## Labels -/

/-- The label is not ahead of the session, and the image is the session's own. -/
structure Labelled (pipeline : CapturePipeline) : Prop where
  label : pipeline.latestGeneration.toNat ≤ pipeline.startedAfter
  image : ∀ shot ∈ pipeline.latestImage, shot.startedAfter = pipeline.startedAfter

variable {answers : FrameAnswers}

theorem resize_ok {pipeline pipeline' : CapturePipeline}
    (h : resize answers pipeline = .ok pipeline') (hlabelled : Labelled pipeline) :
    Labelled pipeline' ∧ pipeline'.startedAfter = pipeline.startedAfter := by
  simp only [resize, bind_eq_ok] at h
  obtain ⟨size, _, h⟩ := h
  split at h
  · simp only [bind_eq_ok, Except.ok.injEq] at h
    obtain ⟨_, _, rfl⟩ := h
    exact ⟨⟨hlabelled.label, by simp⟩, rfl⟩
  · obtain rfl := Except.ok.inj h
    exact ⟨hlabelled, rfl⟩

theorem takeFrame_spec
    (hlabelled : Labelled pipeline) (hyoung : generation.toNat ≤ pipeline.startedAfter) :
    Labelled (takeFrame generation answers pipeline).2 ∧
      ∀ shot, (takeFrame generation answers pipeline).1 = .ok shot →
        shot.startedAfter = pipeline.startedAfter := by
  rw [takeFrame]
  split
  case h_1 image _ =>
    refine ⟨⟨hyoung, by simp⟩, ?_⟩
    rintro shot ⟨⟩
    rfl
  case h_2 =>
    refine ⟨hlabelled, ?_⟩
    rintro shot ⟨⟩
  case h_3 =>
    split
    case h_1 shot himage _ =>
      refine ⟨hlabelled, ?_⟩
      rintro shot ⟨⟩
      exact hlabelled.image shot himage
    case h_2 =>
      refine ⟨hlabelled, ?_⟩
      rintro shot ⟨⟩

theorem readFrame_spec {now : Nat}
    (hlabelled : Labelled pipeline)
    (hyoung : generation.toNat ≤ pipeline.startedAfter) :
    Labelled (readFrame generation answers now pipeline).2 ∧
      ∀ shot, (readFrame generation answers now pipeline).1 = .ok shot →
        shot.startedAfter = pipeline.startedAfter := by
  rw [readFrame]
  split
  case h_1 =>
    refine ⟨hlabelled, ?_⟩
    rintro shot ⟨⟩
  case h_2 resized hresize =>
    obtain ⟨hresized, hsession⟩ := resize_ok hresize hlabelled
    have hused : Labelled { resized with lastUsed := now } := ⟨hresized.label, hresized.image⟩
    rw [← hsession] at hyoung ⊢
    exact takeFrame_spec hused hyoung

/-! ## The invariant -/

namespace CaptureSystem

/-- What the running command knows: its generation is not older than its start, and the
pipeline of its target is not older than the generation. -/
def PhaseFresh (s : CaptureSystem) : Prop :=
  match s.phase with
  | .resolving _ startedWith => startedWith ≤ s.invalidations
  | .ensuring command startedWith generation =>
      startedWith ≤ generation.toNat ∧ generation.toNat ≤ s.invalidations ∧
        ∀ pipeline, s.pipelines.lookup command.targetKey = some pipeline →
          generation.toNat ≤ pipeline.startedAfter
  | .reading command startedWith generation =>
      startedWith ≤ generation.toNat ∧
        ∀ pipeline, s.pipelines.lookup command.targetKey = some pipeline →
          generation.toNat ≤ pipeline.startedAfter
  | _ => True

structure Fresh (s : CaptureSystem) : Prop where
  labelled : ∀ key pipeline, s.pipelines.lookup key = some pipeline → Labelled pipeline
  phase : s.PhaseFresh

def ReplyFresh (reply : Reply) : Prop :=
  ∀ shot bounds, reply.result = .ok (shot, bounds) → reply.startedWith ≤ shot.startedAfter

/-- The invariant of the actor.  The shared counter is the number of invalidations as
long as it has not wrapped around. -/
structure Sound (s : CaptureSystem) : Prop where
  bounded : s.pipelines.size ≤ maxPipelines
  counter : s.generation = UInt64.ofNat s.invalidations
  fresh : s.invalidations < 2 ^ 64 → s.Fresh

variable {s : CaptureSystem}

theorem Sound.toNat_generation (hs : s.Sound) (hcount : s.invalidations < 2 ^ 64) :
    s.generation.toNat = s.invalidations := by
  rw [hs.counter, UInt64.toNat_ofNat']
  exact Nat.mod_eq_of_lt hcount

theorem Fresh.shrink (hfresh : s.Fresh) {phase : Phase}
    (hkept : s.pipelines.Shrinks pipelines)
    (hphase : ({ s with pipelines := pipelines, phase := phase } : CaptureSystem).PhaseFresh) :
    ({ s with pipelines := pipelines, phase := phase } : CaptureSystem).Fresh :=
  ⟨fun key pipeline h => hfresh.labelled key pipeline (hkept.lookup _ _ h), hphase⟩

theorem Sound.shrink (hs : s.Sound) {phase : Phase}
    (hkept : s.pipelines.Shrinks pipelines)
    (hphase : s.invalidations < 2 ^ 64 → s.Fresh →
      ({ s with pipelines := pipelines, phase := phase } : CaptureSystem).PhaseFresh) :
    ({ s with pipelines := pipelines, phase := phase } : CaptureSystem).Sound where
  bounded := hkept.size_le.trans hs.bounded
  counter := hs.counter
  fresh hcount := (hs.fresh hcount).shrink hkept (hphase hcount (hs.fresh hcount))

theorem initial_sound : initial.Sound where
  bounded := Nat.zero_le _
  counter := rfl
  fresh _ := ⟨by simp [initial], trivial⟩

theorem invalidate_sound (hs : s.Sound) : s.invalidateAfterMutation.Sound where
  bounded := hs.bounded
  counter := by
    simp only [invalidateAfterMutation, hs.counter, UInt64.ofNat_add]
    rfl
  fresh hcount := by
    obtain ⟨hlabelled, hphase⟩ := hs.fresh (Nat.lt_of_succ_lt hcount)
    refine ⟨hlabelled, ?_⟩
    rw [PhaseFresh] at hphase ⊢
    simp only [invalidateAfterMutation]
    cases hs : s.phase with
    | looping => trivial
    | waiting => trivial
    | stopped => trivial
    | resolving command startedWith =>
      rw [hs] at hphase
      exact Nat.le_succ_of_le hphase
    | ensuring command startedWith generation =>
      rw [hs] at hphase
      exact ⟨hphase.1, Nat.le_succ_of_le hphase.2.1, hphase.2.2⟩
    | reading command startedWith generation =>
      rw [hs] at hphase
      exact hphase

/-! ## The steps of a command -/

variable {command : CaptureCommand} {startedWith : Nat} {generation : UInt64}

/-- The loaded generation is the number of invalidations, and a pipeline that stays has
it as its label. -/
theorem resolve_sound (hs : s.Sound) (hphase : s.phase = .resolving command startedWith)
    (displays : Except DriverError (List NativeDisplay)) :
    (s.resolve command startedWith displays).1.Sound ∧
      (s.resolve command startedWith displays).1.invalidations = s.invalidations ∧
      ∀ reply ∈ (s.resolve command startedWith displays).2, ReplyFresh reply := by
  rw [resolve]
  split
  case h_1 error _ =>
    refine ⟨hs.shrink (.refl _) fun _ _ => trivial, rfl, ?_⟩
    rintro reply ⟨⟩ shot bounds ⟨⟩
  case h_2 =>
    refine ⟨hs.shrink (dropOutdated_shrinks _ _ _) ?_, rfl, by simp⟩
    intro hcount hfresh
    have hload := hs.toNat_generation hcount
    have hstart := hfresh.phase
    rw [PhaseFresh, hphase] at hstart
    refine ⟨hload ▸ hstart, hload.le, fun pipeline hlookup => ?_⟩
    have hlabel := latestGeneration_of_dropOutdated hlookup
    have hlabelled := hfresh.labelled _ _ ((dropOutdated_shrinks _ _ _).lookup _ _ hlookup)
    exact hlabel ▸ hlabelled.label

theorem ensure_sound (hs : s.Sound) (hphase : s.phase = .ensuring command startedWith generation)
    (answers : SessionAnswers)
    (horder : order.Perm s.pipelines.toList) :
    (s.ensure command startedWith generation answers order).1.Sound ∧
      (s.ensure command startedWith generation answers order).1.invalidations = s.invalidations ∧
      ∀ reply ∈ (s.ensure command startedWith generation answers order).2, ReplyFresh reply := by
  have hensured : Ensured command.targetKey s.invalidations s.now s.pipelines
      (ensurePipeline command.targetKey answers order s.invalidations s.now s.pipelines).1
      (ensurePipeline command.targetKey answers order s.invalidations s.now s.pipelines).2 :=
    ensurePipeline_ensured horder hs.bounded
  rw [ensure]
  generalize ensurePipeline command.targetKey answers order s.invalidations s.now s.pipelines =
    outcome at hensured
  obtain ⟨result, pipelines⟩ := outcome
  have hknown : s.invalidations < 2 ^ 64 → startedWith ≤ generation.toNat ∧
      generation.toNat ≤ s.invalidations ∧
        ∀ pipeline, s.pipelines.lookup command.targetKey = some pipeline →
          generation.toNat ≤ pipeline.startedAfter := by
    intro hcount
    have hfresh := (hs.fresh hcount).phase
    rwa [PhaseFresh, hphase] at hfresh
  cases hensured with
  | present hlookup =>
    refine ⟨hs.shrink (.refl _) fun hcount _ => ?_, rfl, by simp⟩
    exact ⟨(hknown hcount).1, (hknown hcount).2.2⟩
  | refused hkept error =>
    refine ⟨hs.shrink hkept fun _ _ => trivial, rfl, ?_⟩
    rintro reply ⟨⟩ shot bounds ⟨⟩
  | @started kept hkept hroom size =>
    refine ⟨⟨?_, hs.counter, fun hcount => ⟨?_, ?_⟩⟩, rfl, by simp⟩
    · exact (Table.size_insert_le _ _ _).trans hroom
    · intro key pipeline hlookup
      obtain ⟨_, rfl⟩ | hold := Table.lookup_insert_cases hlookup
      · exact ⟨Nat.zero_le _, by simp⟩
      · exact (hs.fresh hcount).labelled key pipeline (hkept.lookup _ _ hold)
    · refine ⟨(hknown hcount).1, fun pipeline hlookup => ?_⟩
      obtain ⟨_, rfl⟩ | hold := Table.lookup_insert_cases hlookup
      · exact (hknown hcount).2.1
      · exact (hknown hcount).2.2 pipeline (hkept.lookup _ _ hold)

theorem read_sound (hs : s.Sound) (hphase : s.phase = .reading command startedWith generation)
    (answers : FrameAnswers) {s' : CaptureSystem} {sent : Option Reply}
    (hread : s.read command startedWith generation answers = some (s', sent)) :
    s'.Sound ∧ s'.invalidations = s.invalidations ∧
      (s.invalidations < 2 ^ 64 → ∀ reply ∈ sent, ReplyFresh reply) := by
  rw [read] at hread
  split at hread
  · cases hread
  case h_2 pipeline hlookup =>
    have hknown : s.invalidations < 2 ^ 64 → startedWith ≤ generation.toNat ∧
        generation.toNat ≤ pipeline.startedAfter := by
      intro hcount
      have hfresh := (hs.fresh hcount).phase
      rw [PhaseFresh, hphase] at hfresh
      exact ⟨hfresh.1, hfresh.2 pipeline hlookup⟩
    have hframe : s.invalidations < 2 ^ 64 →
        Labelled (readFrame generation answers s.now pipeline).2 ∧
          ∀ shot, (readFrame generation answers s.now pipeline).1 = .ok shot →
            shot.startedAfter = pipeline.startedAfter := fun hcount =>
      readFrame_spec ((hs.fresh hcount).labelled _ _ hlookup) (hknown hcount).2
    dsimp only [reply] at hread
    generalize readFrame generation answers s.now pipeline = outcome at hread hframe
    obtain ⟨result, pipeline'⟩ := outcome
    obtain ⟨rfl, rfl⟩ := Prod.mk.inj (Option.some.inj hread)
    refine ⟨⟨?_, hs.counter, fun hcount => ⟨?_, trivial⟩⟩, rfl, fun hcount => ?_⟩
    · exact (Table.size_insert_of_lookup_some hlookup _).trans_le hs.bounded
    · intro key other hother
      obtain ⟨_, rfl⟩ | hold := Table.lookup_insert_cases hother
      · exact (hframe hcount).1
      · exact (hs.fresh hcount).labelled key other hold
    · obtain ⟨hstart, hyoung⟩ := hknown hcount
      rintro reply ⟨⟩ shot bounds hresult
      cases result with
      | error error => cases hresult
      | ok taken =>
        obtain ⟨rfl, _⟩ := Prod.mk.inj (Except.ok.inj hresult)
        exact (hstart.trans hyoung).trans ((hframe hcount).2 taken rfl).ge

/-! ## Every step -/

theorem step_sound (hs : s.Sound) {input : CaptureInput} {s' : CaptureSystem} {sent : Option Reply}
    (hstep : s.step input = some (s', sent)) :
    s'.Sound ∧ s.invalidations ≤ s'.invalidations ∧
      (s.invalidations < 2 ^ 64 → ∀ reply ∈ sent, ReplyFresh reply) := by
  unfold step at hstep
  split at hstep
  case h_1 =>
    obtain ⟨rfl, rfl⟩ := Prod.mk.inj (Option.some.inj hstep)
    exact ⟨invalidate_sound hs, Nat.le_succ _, by simp⟩
  case h_2 elapsed _ =>
    obtain ⟨rfl, rfl⟩ := Prod.mk.inj (Option.some.inj hstep)
    exact ⟨⟨hs.bounded, hs.counter, fun hcount => ⟨(hs.fresh hcount).labelled,
      (hs.fresh hcount).phase⟩⟩, le_rfl, by simp⟩
  case h_3 =>
    obtain ⟨rfl, rfl⟩ := Prod.mk.inj (Option.some.inj hstep)
    exact ⟨hs.shrink (.retain _ _) fun _ _ => trivial, le_rfl, by simp⟩
  case h_4 =>
    split at hstep
    · cases hstep
    · obtain ⟨rfl, rfl⟩ := Prod.mk.inj (Option.some.inj hstep)
      exact ⟨hs.shrink (.refl _) fun _ _ => trivial, le_rfl, by simp⟩
  case h_5 command hphase =>
    obtain ⟨rfl, rfl⟩ := Prod.mk.inj (Option.some.inj hstep)
    exact ⟨hs.shrink (.refl _) fun _ _ => le_rfl, le_rfl, by simp⟩
  case h_6 =>
    obtain ⟨rfl, rfl⟩ := Prod.mk.inj (Option.some.inj hstep)
    exact ⟨hs.shrink (.empty _) fun _ _ => trivial, le_rfl, by simp⟩
  case h_7 displays command startedWith hphase =>
    obtain ⟨rfl, rfl⟩ := Prod.mk.inj (Option.some.inj hstep)
    obtain ⟨hsound, hsame, hreply⟩ := resolve_sound hs hphase displays
    exact ⟨hsound, hsame.ge, fun _ => hreply⟩
  case h_8 answers order command startedWith generation hphase =>
    split at hstep
    case isTrue horder =>
      obtain ⟨rfl, rfl⟩ := Prod.mk.inj (Option.some.inj hstep)
      obtain ⟨hsound, hsame, hreply⟩ := ensure_sound hs hphase answers (List.isPerm_iff.mp horder)
      exact ⟨hsound, hsame.ge, fun _ => hreply⟩
    case isFalse => cases hstep
  case h_9 answers command startedWith generation hphase =>
    obtain ⟨hsound, hsame, hreply⟩ := read_sound hs hphase answers hstep
    exact ⟨hsound, hsame.ge, hreply⟩
  case h_10 => cases hstep

/-- In every run the pipelines are bounded, and the replies are fresh as long as frames
have been invalidated less than `2 ^ 64` times. -/
theorem run_fresh_and_bounded (s : CaptureSystem) (replies : List Reply) (hrun : Run s replies) :
    s.pipelines.size ≤ maxPipelines ∧
      (s.invalidations < 2 ^ 64 → ∀ reply ∈ replies, ∀ shot bounds,
        reply.result = .ok (shot, bounds) → reply.startedWith ≤ shot.startedAfter) := by
  have hsound : s.Sound ∧ (s.invalidations < 2 ^ 64 → ∀ reply ∈ replies, ReplyFresh reply) := by
    induction hrun with
    | initial => exact ⟨initial_sound, by simp⟩
    | step _ input hstep ih =>
      obtain ⟨hs, hreplies⟩ := ih
      obtain ⟨hs', hmore, hsent⟩ := step_sound hs hstep
      refine ⟨hs', fun hcount reply hreply => ?_⟩
      have hbefore := hmore.trans_lt hcount
      obtain hold | hnew := List.mem_append.mp hreply
      · exact hreplies hbefore reply hold
      · exact hsent hbefore reply (Option.mem_toList.mp hnew)
  exact ⟨hsound.1.bounded, hsound.2⟩

/-! ## The counter wraps around -/

def windowCommand : CaptureCommand := ⟨"hwnd:1", .window 1, ⟨0, 0, 1, 1⟩⟩

def sessionStarts : SessionAnswers := ⟨some true, true, none, some ⟨1, 1⟩, true, true, true⟩

def onePixel : RgbaImage := ⟨1, 1, [0, 0, 0, 255]⟩

def frameArrives : FrameAnswers := ⟨some ⟨1, 1⟩, true, some (.ok onePixel)⟩

def frameTimesOut : FrameAnswers := ⟨some ⟨1, 1⟩, true, none⟩

/-- The actor waits, with the pipeline of a session that was started first of all and has
not delivered anything. -/
def pendingSession (generation : UInt64) (invalidations : Nat) : CaptureSystem where
  pipelines := (∅ : Pipelines).insert "hwnd:1" ⟨⟨1, 1⟩, 0, none, 0, 0⟩
  generation := generation
  invalidations := invalidations
  now := 0
  phase := .waiting

theorem run_pendingSession (invalidations : Nat) :
    ∃ replies, Run (pendingSession (UInt64.ofNat invalidations) invalidations) replies := by
  induction invalidations with
  | zero =>
    have hpruned : Run _ _ := .step .initial .prune rfl
    have hreceived : Run _ _ := .step hpruned (.receive windowCommand) rfl
    have hresolved : Run _ _ := .step hreceived (.resolve (.ok [])) rfl
    have hensured : Run _ _ := .step hresolved (.ensure sessionStarts []) rfl
    have hread : Run _ _ := .step hensured (.read frameTimesOut) rfl
    exact ⟨_, .step hread .prune rfl⟩
  | succ n ih =>
    obtain ⟨replies, hrun⟩ := ih
    have hstep : (pendingSession (UInt64.ofNat n) n).step .invalidateAfterMutation =
        some (pendingSession (UInt64.ofNat (n + 1)) (n + 1), none) := by
      simp [step, invalidateAfterMutation, pendingSession, UInt64.ofNat_add]
    exact ⟨_, hrun.step _ hstep⟩

/-- When the counter has come back to the label of a pipeline, a command gets pixels of
a session that was started before every invalidation. -/
theorem stale_reply_after_wrap :
    ∃ s replies, Run s replies ∧
      (⟨2 ^ 64, .ok (⟨onePixel, 0⟩, windowCommand.screenBounds)⟩ : Reply) ∈ replies := by
  obtain ⟨replies, hpending⟩ := run_pendingSession (2 ^ 64)
  have hwrap : UInt64.ofNat (2 ^ 64) = 0 := by decide
  rw [hwrap] at hpending
  have hreceived : Run _ _ := .step hpending (.receive windowCommand) rfl
  have hresolved : Run _ _ := .step hreceived (.resolve (.ok [])) rfl
  have hensured : Run _ _ := .step hresolved
    (.ensure sessionStarts [("hwnd:1", ⟨⟨1, 1⟩, 0, none, 0, 0⟩)]) rfl
  have hread : Run _ _ := .step hensured (.read frameArrives) rfl
  exact ⟨_, _, hread, List.mem_append_right _ (List.mem_singleton.mpr rfl)⟩

/-- A mutation between two commands: the second gets a session of its own. -/
theorem fresh_reply_after_mutation :
    ∃ s replies, Run s replies ∧ s.invalidations = 1 ∧
      (⟨1, .ok (⟨onePixel, 1⟩, windowCommand.screenBounds)⟩ : Reply) ∈ replies ∧
      s.pipelines.size ≤ maxPipelines ∧ ∀ reply ∈ replies, ∀ shot bounds,
        reply.result = .ok (shot, bounds) → reply.startedWith ≤ shot.startedAfter := by
  obtain ⟨replies, hpending⟩ := run_pendingSession 1
  have hreceived : Run _ _ := .step hpending (.receive windowCommand) rfl
  have hresolved : Run _ _ := .step hreceived (.resolve (.ok [])) rfl
  have hensured : Run _ _ := .step hresolved (.ensure sessionStarts []) rfl
  have hread : Run _ _ := .step hensured (.read frameArrives) rfl
  obtain ⟨hbounded, hfresh⟩ := run_fresh_and_bounded _ _ hread
  exact ⟨_, _, hread, rfl, List.mem_append_right _ (List.mem_singleton.mpr rfl), hbounded,
    hfresh (by decide)⟩

end CaptureSystem

end NexusCua.Windows
