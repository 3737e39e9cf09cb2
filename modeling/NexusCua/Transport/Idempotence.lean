import NexusCua.Transport.Ledger

/-!
# Idempotent dispatch

What the ledger promises under every interleaving of dispatches, executions,
reconciliations, the runtime's own tasks and the passing of time: bounded
entries, one runtime call per retained request, replies that are the response
of that call, conflicts that change nothing, and entries kept until they expire.
-/

namespace NexusCua.Transport

open NexusCua.Foundation NexusCua.Protocol
open NexusCua.Foundation.Async (Contract)

variable {ρ ι ε κ ℓ : Type}

section Runs

variable {dispatcher : Dispatcher} {runtime : RuntimeModel ρ ι ε κ ℓ} {C : Contract ρ ε}
  {Post : Command → Except CuaError CommandResult → Prop} {s₀ s : DispatcherState ρ}
  {steps before after : List (DispatcherStep ρ ε)} {e : DispatcherStep ρ ε}
  {h es : List (DispatcherEvent ε)} {pre post : DispatcherState ρ}

/-! ## What the events of a block mean -/

variable {response : ResponseEnvelope} {request : RequestEnvelope}

/-- What a block does that reports an event after the events `h` of its task. -/
def Means (dispatcher : Dispatcher) (h : List (DispatcherEvent ε)) (pre : DispatcherState ρ)
    (es : List (DispatcherEvent ε)) (post : DispatcherState ρ) : DispatcherEvent ε → Prop
  | .responded request response => Responds dispatcher h request response
  | .observed channel response => pre.channels.lookup channel = some (some response)
  | .reconciled requestId outcome => Reconciles dispatcher h requestId outcome
  | .snapshotTaken requestId found => pre.purged.ledger.entries.lookup requestId = found
  | .admitted x => es = [.admitted x] ∧ pre.purged.ledger.entries.lookup x.requestId = none ∧
      post = Dispatcher.insertPending pre.purged x
  | _ => True

theorem DispatcherEffect.means (he : DispatcherEffect dispatcher C Post h pre es post)
    {event : DispatcherEvent ε} (hx : event ∈ es) : Means dispatcher h pre es post event := by
  cases he with
  | silent => simp at hx
  | runtime =>
      obtain ⟨e, -, rfl⟩ := List.mem_map.mp hx
      trivial
  | look _ hfinds =>
      rw [← List.mem_singleton.mp hx] at hfinds
      cases event <;> trivial
  | admits _ _ hnone =>
      cases List.mem_singleton.mp hx
      exact ⟨rfl, hnone, rfl⟩
  | respond hmeans | observe hmeans | reconcile hmeans =>
      cases List.mem_singleton.mp hx
      exact hmeans
  | _ =>
      cases List.mem_singleton.mp hx
      trivial

variable {requestId : RequestId} {digest : Digest}

theorem DispatcherEffect.of_look (he : DispatcherEffect dispatcher C Post h pre es post)
    {event : DispatcherEvent ε} (hx : event ∈ es)
    (hbegins : event.begins = some (requestId, digest)) (hmoves : event.moves = false) :
    Idle h ∧ es = [event] ∧ Finds pre.purged event ∧ post = pre.purged := by
  cases he with
  | look hidle hfinds =>
      rw [← List.mem_singleton.mp hx] at hfinds ⊢
      exact ⟨hidle, rfl, hfinds, rfl⟩
  | runtime =>
      obtain ⟨e, -, rfl⟩ := List.mem_map.mp hx
      simp [DispatcherEvent.begins] at hbegins
  | silent => simp at hx
  | admits =>
      cases List.mem_singleton.mp hx
      simp [DispatcherEvent.moves] at hmoves
  | _ =>
      cases List.mem_singleton.mp hx
      simp [DispatcherEvent.begins] at hbegins

variable {t : Nat}

theorem DispatcherRun.effect (hr : DispatcherRun dispatcher runtime C Post s₀
      (before ++ e :: after) s) (ht : e.task = some t) :
    DispatcherEffect dispatcher C Post (history t before) e.pre e.events e.post := by
  have he := hr.at_step.2
  simp only [Permitted, ht] at he
  exact he

/-! ## Entries are kept until they expire -/

theorem DispatcherRun.retained (h₀ : (dispatcherSystem dispatcher runtime).init s₀)
    (hr : DispatcherRun dispatcher runtime C Post s₀ (before ++ e :: after) s) {isMutation : Bool}
    {expiresAt : Nat}
    (hpre : e.pre.ledger.entries.lookup requestId =
      some (.complete digest isMutation response expiresAt))
    (hpost : e.post.ledger.entries.lookup requestId ≠
      some (.complete digest isMutation response expiresAt)) : expiresAt ≤ e.pre.now := by
  have hbooks := DispatcherRun.books h₀ hr.at_step.1
  have hpurged : ∀ s : DispatcherState ρ, s.ledger.entries.lookup requestId =
      some (.complete digest isMutation response expiresAt) →
      s.purged.ledger.entries.lookup requestId ≠
        some (.complete digest isMutation response expiresAt) → expiresAt ≤ s.now := by
    intro s hs hnot
    by_contra hlive
    refine hnot ?_
    rw [Books.lookup_purged, hs]
    simp [RequestEntry.expired, hlive]
  rcases dispatcher_permitted hr.at_step.2 with ⟨-, -, henv⟩ | ⟨t, -, heffect⟩
  · rcases henv with ⟨duration, hsame⟩ | ⟨r, hsame⟩ <;>
      exact absurd (by rw [hsame]; exact hpre) hpost
  · generalize e.pre = pre at *
    generalize e.post = post at *
    generalize e.events = es at *
    cases heffect with
    | look => exact hpurged pre hpre hpost
    | admits _ _ hnone =>
        refine hpurged pre hpre fun hkept => hpost ?_
        rw [Dispatcher.insertPending, Table.lookup_insert_eq, if_neg]
        · exact hkept
        · rintro rfl
          rw [hnone] at hkept
          contradiction
    | @complete x _ hduty =>
        refine absurd ?_ hpost
        have hentry := (hbooks.held (some t) _ _ hduty).2.1
        have hne : requestId ≠ x.requestId := by
          rintro rfl
          rw [hentry] at hpre
          cases hpre
        simp only [Dispatcher.record, hentry, Table.lookup_insert_eq, Table.lookup_erase_eq,
          if_neg hne]
        exact hpre
    | _ => exact absurd hpre hpost

/-! ## Conflicts -/

/-- A conflicting dispatch does nothing but read and respond, and it responds with the conflict. -/
structure ConflictOnly (h : List (DispatcherEvent ε)) (requestId : RequestId) (digest : Digest) :
    Prop where
  idle : ∀ event ∈ h, event = .conflicted requestId digest ∨
    (event.begins = none ∧ event.moves = false)
  response : ∀ request response, .responded request response ∈ h →
    response = preAdmissionFailure request.requestId requestConflict request.command.isMutation

section

variable (hh : ConflictOnly h requestId digest)
include hh

theorem ConflictOnly.duty : duty h = none := by
  rw [Transport.duty]
  refine foldl_of_fixed fun event hevent => ?_
  rcases hh.idle event hevent with rfl | ⟨-, hmoves⟩
  · rfl
  · cases event with
    | admitted | spawned | executeCalled | executed | completed =>
        simp [DispatcherEvent.moves] at hmoves
    | _ => rfl

theorem ConflictOnly.of_responds (hconflicted : .conflicted requestId digest ∈ h)
    (hresponds : Responds dispatcher h request response) :
    response = preAdmissionFailure request.requestId requestConflict
      request.command.isMutation := by
  have hnot : ∀ event ∈ h, event ≠ .conflicted requestId digest → event.begins = none := by
    intro event hevent hne
    rcases hh.idle event hevent with heq | ⟨hbegins, -⟩
    · exact absurd heq hne
    · exact hbegins
  cases hresponds with
  | invalid _ hidle =>
      obtain ⟨e, he⟩ := hidle _ hconflicted
      cases he
  | reconcile _ hbegin => exact absurd (hbegin _ hconflicted) (by simp [DispatcherEvent.begins])
  | busy _ hbusy => exact absurd (hnot _ hbusy (by simp)) (by simp [DispatcherEvent.begins])
  | conflict => rfl
  | recorded _ hrecorded =>
      cases hrecorded with
      | replayed hreplayed =>
          exact absurd (hnot _ hreplayed (by simp)) (by simp [DispatcherEvent.begins])
      | awaited channel hfollows _ =>
          rcases hfollows with hjoined | hadmitted
          · exact absurd (hnot _ hjoined (by simp)) (by simp [DispatcherEvent.begins])
          · exact absurd (hnot _ hadmitted (by simp)) (by simp [DispatcherEvent.begins])
  | deadline _ hbegun =>
      obtain ⟨channel, hjoined | hadmitted⟩ := hbegun
      · exact absurd (hnot _ hjoined (by simp)) (by simp [DispatcherEvent.begins])
      · exact absurd (hnot _ hadmitted (by simp)) (by simp [DispatcherEvent.begins])

theorem ConflictOnly.append
    (hes : ∀ event ∈ es, event.begins = none ∧ event.moves = false)
    (hresponse : ∀ request response, .responded request response ∈ es →
      response = preAdmissionFailure request.requestId requestConflict
        request.command.isMutation) :
    ConflictOnly (h ++ es) requestId digest := by
  constructor
  · intro event hevent
    rcases List.mem_append.mp hevent with hevent | hevent
    · exact hh.idle event hevent
    · exact .inr (hes event hevent)
  · intro request response hevent
    rcases List.mem_append.mp hevent with hevent | hevent
    · exact hh.response request response hevent
    · exact hresponse request response hevent

end

theorem Idle.conflictOnly (hidle : Idle h) (requestId : RequestId) (digest : Digest) :
    ConflictOnly (h ++ [.conflicted requestId digest]) requestId digest := by
  constructor
  · intro event hevent
    rcases List.mem_append.mp hevent with hevent | hevent
    · obtain ⟨e, rfl⟩ := hidle event hevent
      exact .inr ⟨rfl, rfl⟩
    · exact .inl (List.mem_singleton.mp hevent)
  · intro request response hevent
    rcases List.mem_append.mp hevent with hevent | hevent
    · obtain ⟨e, he⟩ := hidle _ hevent
      cases he
    · simp at hevent

theorem DispatcherEffect.conflictOnly (he : DispatcherEffect dispatcher C Post h pre es post)
    (hh : .conflicted requestId digest ∈ h → ConflictOnly h requestId digest)
    (hconflicted : .conflicted requestId digest ∈ h ++ es) :
    ConflictOnly (h ++ es) requestId digest := by
  by_cases hbefore : .conflicted requestId digest ∈ h
  · have honly := hh hbefore
    have hduty := honly.duty
    have hbusy : ¬ Idle h := by
      intro hidle
      obtain ⟨e, he⟩ := hidle _ hbefore
      cases he
    cases he with
    | silent => exact honly.append (by simp) (by simp)
    | look hidle => exact absurd hidle hbusy
    | admits hidle => exact absurd hidle hbusy
    | call hidle => exact absurd hidle hbusy
    | spawn hd => exact absurd (hduty.symm.trans hd) (by simp)
    | returns hd => exact absurd (hduty.symm.trans hd) (by simp)
    | complete hd => exact absurd (hduty.symm.trans hd) (by simp)
    | observe | reconcile | runtime =>
        exact honly.append (by simp [DispatcherEvent.begins, DispatcherEvent.moves]) (by simp)
    | respond hresponds =>
        refine honly.append (by simp [DispatcherEvent.begins, DispatcherEvent.moves]) ?_
        intro request response hevent
        cases List.mem_singleton.mp hevent
        exact honly.of_responds hbefore hresponds
  · have hnow : .conflicted requestId digest ∈ es :=
      (List.mem_append.mp hconflicted).resolve_left hbefore
    obtain ⟨hidle, rfl, -⟩ := he.of_look hnow rfl rfl
    exact hidle.conflictOnly requestId digest

theorem DispatcherRun.conflictOnly (hr : DispatcherRun dispatcher runtime C Post s₀ steps s)
    (hconflicted : .conflicted requestId digest ∈ history t steps) :
    ConflictOnly (history t steps) requestId digest := by
  revert hconflicted
  refine hr.invariant (P := fun steps _ => .conflicted requestId digest ∈ history t steps →
    ConflictOnly (history t steps) requestId digest) (by simp) ?_
  intro before e _ ih he hconflicted
  by_cases ht : e.task = some t
  · obtain ⟨task, pre, events, post⟩ := e
    cases ht
    rw [history_snoc_self] at hconflicted ⊢
    exact DispatcherEffect.conflictOnly he ih hconflicted
  · rw [history_snoc_other _ ht] at hconflicted ⊢
    exact ih hconflicted

theorem DispatcherEffect.conflict (he : DispatcherEffect dispatcher C Post h pre es post)
    {event : DispatcherEvent ε} (hx : event ∈ es)
    (hbegins : event.begins = some (requestId, digest)) {entry : RequestEntry}
    (hentry : pre.purged.ledger.entries.lookup requestId = some entry)
    (hdigest : entry.digest ≠ digest) :
    event = .conflicted requestId digest ∧ post = pre.purged := by
  cases event with
  | admitted x =>
      cases hbegins
      have hnone := (he.means hx).2.1
      cases hentry.symm.trans hnone
  | joined id d channel =>
      obtain ⟨-, -, ⟨isMutation, hfound⟩, -⟩ := he.of_look hx hbegins rfl
      cases hbegins
      cases hentry.symm.trans hfound
      exact absurd rfl hdigest
  | replayed id d response =>
      obtain ⟨-, -, ⟨isMutation, expiresAt, hfound⟩, -⟩ := he.of_look hx hbegins rfl
      cases hbegins
      cases hentry.symm.trans hfound
      exact absurd rfl hdigest
  | refusedBusy id d =>
      obtain ⟨-, -, hfound, -⟩ := he.of_look hx hbegins rfl
      cases hbegins
      cases hentry.symm.trans hfound
  | conflicted id d =>
      obtain ⟨-, -, -, hpost⟩ := he.of_look hx hbegins rfl
      cases hbegins
      exact ⟨rfl, hpost⟩
  | _ => simp [DispatcherEvent.begins] at hbegins

/-! ## Recorded results -/

/-- The execution behind the entry that a dispatch found or made in the step `e`. -/
def BegunWith (before : List (DispatcherStep ρ ε)) (e : DispatcherStep ρ ε)
    (requestId : RequestId) (digest : Digest) (x : Execution) : Prop :=
  x.requestId = requestId ∧ x.digest = digest ∧
    (∃ entry, e.post.ledger.entries.lookup requestId = some entry) ∧
    ∃ a, admission requestId (before ++ [e]) = some a ∧ a.execution = x

theorem DispatcherRun.begun_replayed (h₀ : (dispatcherSystem dispatcher runtime).init s₀)
    (hr : DispatcherRun dispatcher runtime C Post s₀ (before ++ e :: after) s)
    (ht : e.task = some t)
    (hx : .replayed requestId digest response ∈ e.events) :
    ∃ x outcome, BegunWith before e requestId digest x ∧ Occurs (.executed x outcome) before ∧
      response = responseOf x outcome := by
  have hbooks := (DispatcherRun.books h₀ hr.at_step.1).purged
  obtain ⟨-, hes, ⟨isMutation, expiresAt, hfound⟩, hpost⟩ := (hr.effect ht).of_look hx rfl rfl
  obtain ⟨x, outcome, hR, hid, hdigest, -, hresponse, hV⟩ := hbooks.complete _ _ _ _ _ hfound
  refine ⟨x, outcome, ⟨hid, hdigest, ⟨_, hpost ▸ hfound⟩, ⟨x, 1, [outcome]⟩, ?_, rfl⟩, hR,
    hresponse⟩
  rw [admission_neutral (by simp [hes, DispatcherEvent.moves])]
  exact hV

theorem DispatcherRun.begun_joined (h₀ : (dispatcherSystem dispatcher runtime).init s₀)
    (hr : DispatcherRun dispatcher runtime C Post s₀ (before ++ e :: after) s)
    (ht : e.task = some t) {channel : Nat}
    (hx : .joined requestId digest channel ∈ e.events) :
    ∃ x, BegunWith before e requestId digest x ∧ x.channel = channel ∧
      Occurs (.admitted x) before := by
  have hbooks := (DispatcherRun.books h₀ hr.at_step.1).purged
  obtain ⟨-, hes, ⟨isMutation, hfound⟩, hpost⟩ := (hr.effect ht).of_look hx rfl rfl
  obtain ⟨holder, x, stage, hheld, rfl⟩ := hbooks.pending _ _ _ _ hfound
  obtain ⟨hA, hentry, hV, -⟩ := hbooks.held holder x stage hheld
  cases hentry.symm.trans hfound
  refine ⟨x, ⟨rfl, rfl, ⟨_, hpost ▸ hfound⟩, ⟨x, stage.calls, stage.outcomes⟩, ?_, rfl⟩, rfl, hA⟩
  rw [admission_neutral (by simp [hes, DispatcherEvent.moves])]
  exact hV

theorem DispatcherRun.begun_admitted
    (hr : DispatcherRun dispatcher runtime C Post s₀ (before ++ e :: after) s)
    (ht : e.task = some t) {x : Execution} (hx : .admitted x ∈ e.events) :
    BegunWith before e x.requestId x.digest x := by
  obtain ⟨hes, -, hpost⟩ := (hr.effect ht).means hx
  refine ⟨rfl, rfl, ⟨.pending x.digest x.command.isMutation x.channel, ?_⟩, ⟨x, 0, []⟩, ?_, rfl⟩
  · rw [hpost, Dispatcher.insertPending, Table.lookup_insert_eq, if_pos rfl]
  · rw [admission_snoc, hes]
    simp [Admission.next]

theorem DispatcherRun.recorded (h₀ : (dispatcherSystem dispatcher runtime).init s₀)
    (hr : DispatcherRun dispatcher runtime C Post s₀ steps s)
    (hrecorded : Recorded (history t steps) request digest response) :
    ∃ before e after x outcome, steps = before ++ e :: after ∧ e.task = some t ∧
      BegunWith before e request.requestId digest x ∧ response = responseOf x outcome ∧
      Occurs (.executed x outcome) steps ∧
      ∀ outcome', Occurs (.executed x outcome') steps → outcome' = outcome := by
  have hbooks := DispatcherRun.books h₀ hr
  cases hrecorded with
  | replayed hreplayed =>
      obtain ⟨before, e, after, rfl, ht, hx⟩ := exists_split_of_mem_history hreplayed
      obtain ⟨x, outcome, hbegun, hexecuted, hresponse⟩ :=
        DispatcherRun.begun_replayed h₀ hr ht hx
      have hoccurs : Occurs (.executed x outcome) (before ++ e :: after) :=
        hexecuted.append _
      exact ⟨before, e, after, x, outcome, rfl, ht, hbegun, hresponse, hoccurs,
        fun outcome' hother => hbooks.once x outcome' outcome hother hoccurs⟩
  | awaited channel hfollows hobserved =>
      obtain ⟨y, outcome, hexecuted, hchannel, hresponse⟩ :
          ∃ y outcome, Occurs (.executed y outcome) steps ∧ y.channel = channel ∧
            response = responseOf y outcome := by
        obtain ⟨before, e, after, rfl, ht, hx⟩ := exists_split_of_mem_history hobserved
        have hsent := (hr.effect ht).means hx
        obtain ⟨y, outcome, hR, hrest⟩ :=
          (DispatcherRun.books h₀ hr.at_step.1).sent channel response hsent
        exact ⟨y, outcome, hR.append _, hrest⟩
      have hadmitted : Occurs (.admitted y) steps := hbooks.admitted y outcome hexecuted
      have hsame : ∀ x, Occurs (.admitted x) steps → x.channel = channel → x = y := fun x hx hc =>
        hbooks.distinct x y hx hadmitted (hc.trans hchannel.symm)
      obtain ⟨before, e, after, x, rfl, ht, hbegun, rfl⟩ :
          ∃ before e after x, steps = before ++ e :: after ∧ e.task = some t ∧
            BegunWith before e request.requestId digest x ∧ x = y := by
        rcases hfollows with hjoined | hown
        · obtain ⟨before, e, after, rfl, ht, hx⟩ := exists_split_of_mem_history hjoined
          obtain ⟨x, hbegun, hc, hA⟩ := DispatcherRun.begun_joined h₀ hr ht hx
          exact ⟨before, e, after, x, rfl, ht, hbegun, hsame x (hA.append _) hc⟩
        · have hA := occurs_of_mem_history hown
          obtain ⟨before, e, after, rfl, ht, hx⟩ := exists_split_of_mem_history hown
          exact ⟨before, e, after, _, rfl, ht, DispatcherRun.begun_admitted hr ht hx,
            hsame _ hA rfl⟩
      exact ⟨before, e, after, x, outcome, rfl, ht, hbegun, hresponse, hexecuted,
        fun outcome' hother => hbooks.once x outcome' outcome hother hexecuted⟩

/-! ## Reconciliations -/

/-- The answers that a run allows about the entry that a reconciliation has found. -/
def Answers (dispatcher : Dispatcher) (steps : List (DispatcherStep ρ ε)) (requestId : RequestId)
    (found : Option RequestEntry) (result : MutationReconciliation) : Prop :=
  match found with
  | none => result = dispatcher.reconciliation requestId .unknown .unknown
  | some entry =>
      if entry.isMutation then
        entry.isPending = true ∧ result = dispatcher.reconciliation requestId .admitted .pending ∨
        ∃ x outcome, x.requestId = requestId ∧ x.digest = entry.digest ∧
          x.command.isMutation = true ∧ Occurs (.executed x outcome) steps ∧
          result = dispatcher.reconciliationFromResponse (responseOf x outcome)
      else result = dispatcher.reconciliation requestId .admitted .notMutation

theorem DispatcherRun.answers (h₀ : (dispatcherSystem dispatcher runtime).init s₀)
    (hr : DispatcherRun dispatcher runtime C Post s₀ steps s) {result : MutationReconciliation}
    (hreconciles : Reconciles dispatcher (history t steps) requestId (.ok result)) :
    ∃ found, .snapshotTaken requestId found ∈ history t steps ∧
      Answers dispatcher steps requestId found result := by
  have hread : ∀ {found}, .snapshotTaken requestId found ∈ history t steps →
      ∃ before after s, steps = before ++ after ∧ RunBooks dispatcher before s ∧
        s.ledger.entries.lookup requestId = found := by
    intro found hsnapshot
    obtain ⟨before, e, after, rfl, ht, hx⟩ := exists_split_of_mem_history hsnapshot
    exact ⟨before, e :: after, _, rfl, (DispatcherRun.books h₀ hr.at_step.1).purged,
      (hr.effect ht).means hx⟩
  cases hreconciles with
  | missing hsnapshot => exact ⟨_, hsnapshot, rfl⟩
  | notMutation hsnapshot hmutation => exact ⟨_, hsnapshot, by simp [Answers, hmutation]⟩
  | pending hsnapshot => exact ⟨_, hsnapshot, .inl ⟨rfl, rfl⟩⟩
  | complete hsnapshot =>
      obtain ⟨before, after, s, rfl, hbooks, hfound⟩ := hread hsnapshot
      obtain ⟨x, outcome, hR, hid, hdigest, hmutation, rfl, -⟩ := hbooks.complete _ _ _ _ _ hfound
      exact ⟨_, hsnapshot, .inr ⟨x, outcome, hid, hdigest, hmutation, hR.append _, rfl⟩⟩
  | observed digest channel hsnapshot hobserved =>
      obtain ⟨before, after, s, hsteps, hbooks, hfound⟩ := hread hsnapshot
      obtain ⟨holder, x, stage, hheld, rfl⟩ := hbooks.pending _ _ _ _ hfound
      obtain ⟨hA, hentry, -⟩ := hbooks.held holder x stage hheld
      injection Option.some.inj (hentry.symm.trans hfound) with hdigest hmutation hchannel
      obtain ⟨earlier, f, later, rfl, hf, hx⟩ := exists_split_of_mem_history hobserved
      obtain ⟨y, outcome, hR, hy, rfl⟩ := (DispatcherRun.books h₀ hr.at_step.1).sent _ _
        ((hr.effect hf).means hx)
      -- the two executions were admitted with one channel
      have hbooks := DispatcherRun.books h₀ hr
      have hR := hR.append (f :: later)
      obtain rfl := hbooks.distinct x y (hsteps ▸ hA.append _) (hbooks.admitted y _ hR)
        (hchannel.trans hy.symm)
      exact ⟨_, hsnapshot, .inr ⟨x, outcome, rfl, hdigest, hmutation, hR, rfl⟩⟩

end Runs

/-! ## The law of the ledger -/

section Law

variable (dispatcher : Dispatcher) (runtime : RuntimeModel ρ ι ε κ ℓ)

abbrev DispatcherPool (ρ ι ε : Type) :=
  Pool (DispatcherState ρ) (DispatcherReply ι) (DispatcherEvent ε)

variable {dispatcher runtime} {c : DispatcherPool ρ ι ε} {C : Contract ρ ε}
  {Post : Command → Except CuaError CommandResult → Prop}

/--
A reconciliation answers from the entry that it has read: that there is none, that it is no
mutation, that it is pending, or what the runtime has returned for it.
-/
theorem reconciliation_truthful (dispatcher : Dispatcher) (runtime : RuntimeModel ρ ι ε κ ℓ)
    (c : DispatcherPool ρ ι ε) (hc : Reachable (dispatcherSystem dispatcher runtime) c) :
    ∀ before e after t requestId result, c.steps = before ++ e :: after → e.task = some t →
      (.reconciled requestId (.ok result) ∈ e.events ∨
        Reconciles dispatcher (history t before) requestId (.ok result)) →
      ∃ found, .snapshotTaken requestId found ∈ history t before ∧
        Answers dispatcher before requestId found result := by
  intro before e after t requestId result hsteps ht hanswered
  have hkeeps := dispatcherSystem_keeps dispatcher runtime
    (fun _ => Async.wp_anything _ fun _ _ => trivial)
    fun _ _ => Async.wp_anything _ fun _ _ _ _ => trivial
  obtain ⟨s₀, h₀, hr⟩ := (hc.accounted hkeeps).lawful
  rw [hsteps] at hr
  refine DispatcherRun.answers h₀ hr.at_step.1 ?_
  rcases hanswered with hx | hreconciles
  · exact (DispatcherRun.effect hr ht).means hx
  · exact hreconciles

end Law

/-! ### A retried request -/

theorem exampleTtl_pos : 0 < 60 * second := by decide

theorem exampleTimeout_pos : 0 < 1000 := by decide

def exampleDispatcher : Dispatcher where
  sha256 _ := ⟨[1]⟩
  commandDigest _ := some ⟨[2]⟩
  token := ⟨⟨[1]⟩⟩
  runtimeEpoch := "epoch"
  maxInflightRequests := 1
  maxCompletedRequests := 1
  completedRequestTtl := 60 * second
  maxRequestTimeoutMs := 1000
  maxInflightRequests_pos := Nat.one_pos
  maxCompletedRequests_pos := Nat.one_pos
  completedRequestTtl_pos := exampleTtl_pos
  maxRequestTimeoutMs_pos := exampleTimeout_pos

def acknowledgingRuntime : RuntimeModel Unit Unit Unit Empty Empty where
  system := ⟨fun _ => True, fun command => command.elim, fun label => label.elim⟩
  execute _ := .done (.ok .acknowledged)

def exampleRequest : RequestEnvelope where
  protocolVersion := protocolVersion
  requestId := ⟨"request"⟩
  timeoutMs := 1000
  authorization := ⟨"0123456789abcdef0123456789abcdef"⟩
  command := .closeSession ⟨"session"⟩

def writingRuntime : RuntimeModel Unit Unit Unit Empty Empty :=
  { acknowledgingRuntime with
    execute := fun _ => .done (.ok (.clipboardWritten
      ⟨⟨"clipboard"⟩, .background, true, .unverified, .dispatchAcceptance⟩)) }

/-- A mutation that is reconciled while it waits for its execution, and again afterwards. -/
def reconcileMoves :
    List (Move (DispatcherReply Unit) (DispatcherCall Empty) (DispatcherLabel Empty)) :=
  [.spawn (.dispatch { exampleRequest with
      command := .writeClipboard ⟨⟨"session"⟩, ⟨"clipboard"⟩, ⟨"text"⟩⟩ }),
    .run 0 .none, .run 0 .none, .run 0 .none, .spawn (.reconcileMutation ⟨"request"⟩ 0),
    .run 1 .none, .run 1 .none, .run 1 .none, .run 1 .none, .run 1 .none,
    .spawn .worker, .run 2 (.take 0), .run 2 .none, .run 2 .none,
    .spawn (.reconcileMutation ⟨"request"⟩ 0), .run 3 .none, .run 3 .none]

theorem reconciliation_of_mutation :
    ∃ c, Reachable (dispatcherSystem exampleDispatcher writingRuntime) c ∧
      (∃ before e after, c.steps = before ++ e :: after ∧ ∃ found,
        .snapshotTaken ⟨"request"⟩ found ∈ history 1 before ∧
        Answers exampleDispatcher before ⟨"request"⟩ found
          (exampleDispatcher.reconciliation ⟨"request"⟩ .admitted .pending)) ∧
      ∃ before e after, c.steps = before ++ e :: after ∧ ∃ found,
        .snapshotTaken ⟨"request"⟩ found ∈ history 3 before ∧
        Answers exampleDispatcher before ⟨"request"⟩ found
          { exampleDispatcher.reconciliation ⟨"request"⟩ .admitted .succeeded with
            dispatched := some true
            effectStatus := some .unverified
            evidenceKind := some .dispatchAcceptance } := by
  have hrun : ((Pool.start (.initial 0 ())).run
      (dispatcherSystem exampleDispatcher writingRuntime) reconcileMoves).isSome := by decide
  have hc := Reachable.of_run (S := dispatcherSystem exampleDispatcher writingRuntime)
    ⟨0, (), trivial, rfl⟩ hrun
  have htruthful := reconciliation_truthful exampleDispatcher writingRuntime _ hc
  have hanswered : ∀ {t result},
      .reconciled ⟨"request"⟩ (.ok result) ∈ history t (Option.get _ hrun).steps →
        ∃ before e after, (Option.get _ hrun).steps = before ++ e :: after ∧ ∃ found,
          .snapshotTaken ⟨"request"⟩ found ∈ history t before ∧
          Answers exampleDispatcher before ⟨"request"⟩ found result := by
    intro t result hx
    obtain ⟨before, e, after, hsteps, ht, hx⟩ := exists_split_of_mem_history hx
    exact ⟨before, e, after, hsteps, htruthful before e after t _ _ hsteps ht (.inl hx)⟩
  exact ⟨_, hc, hanswered (.tail _ (.head _)), hanswered (.tail _ (.head _))⟩

end NexusCua.Transport
