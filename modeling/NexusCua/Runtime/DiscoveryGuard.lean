import NexusCua.Runtime.Authority

/-!
# Discovery and launch references

The tables of discovery records stay within their limits.  A launch reference
leads to one call of the driver at most, for the application it was issued for
while no such application is running, and a session is opened with applications
that were listed anew for the references it was asked for.
-/

namespace NexusCua.Runtime

open NexusCua.Foundation NexusCua.Protocol

variable {runtime : RuntimeService} {h es : List RuntimeEvent} {s s' s₀ : RuntimeState}
  {sessionId : SessionId} {steps before after : List RuntimeStep} {e : RuntimeStep} {t : Nat}

/-! ## Drawn references -/

section Drawn

variable {κ α υ : Type} [DecidableEq κ]

theorem lookup_insertDrawn {record : α → υ} {drawn : List (κ × α)} {table : Table κ υ} {k : κ}
    {v : υ} (hv : (insertDrawn record drawn table).lookup k = some v) :
    (∃ a, (k, a) ∈ drawn ∧ v = record a) ∨ table.lookup k = some v := by
  induction drawn generalizing table with
  | nil => exact .inr hv
  | cons entry drawn ih =>
      rcases ih hv with ⟨a, ha, rfl⟩ | hold
      · exact .inl ⟨a, .tail _ ha, rfl⟩
      · rw [Table.lookup_insert_eq] at hold
        split at hold
        · subst k
          exact .inl ⟨entry.2, .head _, (Option.some.inj hold).symm⟩
        · exact .inr hold

theorem size_insertDrawn_le (record : α → υ) (drawn : List (κ × α)) (table : Table κ υ) :
    (insertDrawn record drawn table).size ≤ table.size + drawn.length := by
  induction drawn generalizing table with
  | nil => exact le_rfl
  | cons entry drawn ih =>
      have hinsert := Table.size_insert_le table entry.1 (record entry.2)
      have hrest := ih (table.insert entry.1 (record entry.2))
      rw [List.length_cons]
      exact hrest.trans (by omega)

end Drawn

variable {launchRef : LaunchRef}

theorem drawn_of_mem_drawLaunchRefs {uuids : UuidSource} {issued : Nat}
    {applications : List DriverLaunchableApplication}
    {application : DriverLaunchableApplication}
    (hmem : (launchRef, application) ∈ drawLaunchRefs uuids issued applications) :
    ∃ n, issued ≤ n ∧ n < issued + applications.length ∧
      launchRef = ⟨uuids.issue "launch" n⟩ := by
  obtain ⟨⟨listed, n⟩, hentry, heq⟩ := List.mem_map.mp hmem
  obtain ⟨hle, hlt, -⟩ := List.mem_zipIdx hentry
  exact ⟨n, hle, hlt, (congrArg Prod.fst heq).symm⟩

/-! ## The tables -/

@[simp] theorem discovery_withDiscovery (s : RuntimeState)
    (discovery : Table DiscoveryRef DiscoveryRecord) :
    (withDiscovery s discovery).discovery = discovery := rfl

@[simp] theorem launchDiscovery_withLaunchDiscovery (s : RuntimeState)
    (launches : Table LaunchRef LaunchDiscoveryRecord) :
    (withLaunchDiscovery s launches).launchDiscovery = launches := rfl

theorem ControlEffect.shrinks (he : ControlEffect h s es s') :
    Table.Shrinks s.discovery s'.discovery ∧
    Table.Shrinks s.launchDiscovery s'.launchDiscovery := by
  cases he with
  | discoveryCleared => exact ⟨.empty _, .refl _⟩
  | launchesCleared => exact ⟨.refl _, .empty _⟩
  | discoveryReaped =>
      rw [discovery_withDiscovery]
      exact ⟨.retain _ _, .refl _⟩
  | launchesReaped =>
      rw [launchDiscovery_withLaunchDiscovery]
      exact ⟨.refl _, .retain _ _⟩
  | sessionsDrained | sessionsReaped =>
      rw [RuntimeState.closeSessions_eq]
      exact ⟨.refl _, .refl _⟩
  | ensured =>
      rw [RuntimeState.installScheduler]
      split <;> exact ⟨.refl _, .refl _⟩
  | rescheduled =>
      rw [RuntimeState.reschedule]
      split <;> exact ⟨.refl _, .refl _⟩
  | schedulerTaken =>
      rw [RuntimeState.takeScheduler]
      split <;> exact ⟨.refl _, .refl _⟩
  | runtimeDropped =>
      rw [RuntimeState.dropRuntime]
      split <;> exact ⟨.refl _, .refl _⟩
  | _ => exact ⟨.refl _, .refl _⟩

inductive DiscoveryStep (runtime : RuntimeService) (s : RuntimeState) (es : List RuntimeEvent)
    (s' : RuntimeState) : Prop where
  | shrunk (hd : Table.Shrinks s.discovery s'.discovery)
      (hl : Table.Shrinks s.launchDiscovery s'.launchDiscovery)
  | discovered (hroom : s'.discovery.size ≤ runtime.config.maxDiscoveryRecords)
      (hl : s'.launchDiscovery = s.launchDiscovery)
  | launchesDiscovered (applications : List DriverLaunchableApplication) (expiresAt : Nat)
      (hes : es = [.launchesDiscovered (drawLaunchRefs runtime.uuids s.issued applications)])
      (hroom : s.liveLaunches.size + applications.length ≤
        runtime.config.maxLaunchDiscoveryRecords)
      (hissued : s'.issued = s.issued + applications.length)
      (hl : s'.launchDiscovery = insertDrawn
        (fun application => (⟨runtime.epoch, application, expiresAt⟩ : LaunchDiscoveryRecord))
        (drawLaunchRefs runtime.uuids s.issued applications) s.liveLaunches)
      (hd : s'.discovery = s.discovery)

theorem DiscoveryStep.of_eq (hd : s'.discovery = s.discovery)
    (hl : s'.launchDiscovery = s.launchDiscovery) : DiscoveryStep runtime s es s' :=
  .shrunk (hd ▸ .refl _) (hl ▸ .refl _)

theorem DiscoveryEffect.discoveryStep (he : DiscoveryEffect runtime h s es s') :
    DiscoveryStep runtime s es s' := by
  cases he with
  | @discovered _ applications expiresAt _ hroom =>
      refine .discovered ?_ rfl
      refine (size_insertDrawn_le _ _ _).trans ?_
      simpa [drawDiscoveryRefs] using hroom
  | discoveryFull =>
      refine .shrunk ?_ (.refl _)
      rw [discovery_withDiscovery]
      exact .retain _ _
  | @launchesDiscovered _ applications expiresAt _ hroom =>
      exact .launchesDiscovered applications expiresAt rfl hroom rfl rfl rfl
  | launchesFull =>
      refine .shrunk (.refl _) ?_
      rw [launchDiscovery_withLaunchDiscovery]
      exact .retain _ _
  | launchConsumed => exact .shrunk (.refl _) (.erase _ _)
  | terminated =>
      refine .shrunk ?_ (.refl _)
      rw [discovery_withDiscovery]
      exact .retain _ _

theorem RuntimeEffect.discoveryStep (he : RuntimeEffect runtime h s es s') :
    DiscoveryStep runtime s es s' := by
  cases he with
  | control he => exact .shrunk he.shrinks.1 he.shrinks.2
  | session he => cases he <;> exact .of_eq rfl rfl
  | tables he => cases he <;> exact .of_eq rfl rfl
  | discovery he => exact he.discoveryStep
  | store he => cases he <;> exact .of_eq rfl rfl
  | _ => exact .of_eq rfl rfl

def WithinLimits (runtime : RuntimeService) (s : RuntimeState) : Prop :=
  s.discovery.size ≤ runtime.config.maxDiscoveryRecords ∧
    s.launchDiscovery.size ≤ runtime.config.maxLaunchDiscoveryRecords

theorem DiscoveryStep.withinLimits (hs : DiscoveryStep runtime s es s')
    (hw : WithinLimits runtime s) : WithinLimits runtime s' := by
  cases hs with
  | shrunk hd hl => exact ⟨hd.size_le.trans hw.1, hl.size_le.trans hw.2⟩
  | discovered hroom hl => exact ⟨hroom, hl ▸ hw.2⟩
  | launchesDiscovered applications expiresAt hes hroom hissued hl hd =>
      refine ⟨hd ▸ hw.1, ?_⟩
      rw [hl]
      refine (size_insertDrawn_le _ _ _).trans ?_
      simpa [drawLaunchRefs] using hroom

theorem DiscoveryStep.launch_cases (hs : DiscoveryStep runtime s es s')
    {record : LaunchDiscoveryRecord} (hrecord : s'.launchDiscovery.lookup launchRef = some record) :
    s.launchDiscovery.lookup launchRef = some record ∨ ∃ drawn n,
      .launchesDiscovered drawn ∈ es ∧ (launchRef, record.application) ∈ drawn ∧ s.issued ≤ n ∧
        n < s'.issued ∧ launchRef = ⟨runtime.uuids.issue "launch" n⟩ := by
  cases hs with
  | shrunk _ hl => exact .inl (hl.lookup _ _ hrecord)
  | discovered _ hl => exact .inl (hl ▸ hrecord)
  | launchesDiscovered applications expiresAt hes hroom hissued hl =>
      rw [hl] at hrecord
      rcases lookup_insertDrawn hrecord with ⟨application, hmem, rfl⟩ | hrecord
      · obtain ⟨n, hle, hlt, hdrawn⟩ := drawn_of_mem_drawLaunchRefs hmem
        exact .inr ⟨_, n, by simp [hes], hmem, hle, hissued ▸ hlt, hdrawn⟩
      · exact .inl ((Table.Shrinks.retain _ _).lookup _ _ hrecord)

/-! ## Launch references -/

theorem RuntimeEffect.of_launchConsumed
    (he : RuntimeEffect runtime h s es s') (hx : .launchConsumed launchRef ∈ es) :
    (∃ record, s.launchDiscovery.lookup launchRef = some record) ∧
      s'.launchDiscovery.lookup launchRef = none := by
  cases he.of_discovery hx rfl with
  | launchConsumed _ hrecord =>
      obtain rfl := RuntimeEvent.launchConsumed.inj (List.mem_singleton.mp hx)
      refine ⟨⟨_, hrecord⟩, ?_⟩
      rw [launchDiscovery_withLaunchDiscovery, Table.lookup_erase_eq, if_pos rfl]
  | _ => simp at hx

/-- The launch records that are kept after the steps `steps`. -/
def LaunchesSound (runtime : RuntimeService) (steps : List RuntimeStep) (s : RuntimeState) : Prop :=
  ∀ launchRef record, s.launchDiscovery.lookup launchRef = some record →
    (∃ drawn, Occurs (.launchesDiscovered drawn) steps ∧
      (launchRef, record.application) ∈ drawn) ∧
    ∃ n, n < s.issued ∧ launchRef = ⟨runtime.uuids.issue "launch" n⟩

namespace RuntimeRun

theorem withinLimits (hr : RuntimeRun runtime s₀ steps s) (h₀ : WithinLimits runtime s₀) :
    WithinLimits runtime s :=
  hr.induction (P := fun _ s => WithinLimits runtime s) h₀
    (fun _ _ _ _ _ _ hw hb => hb.effect.discoveryStep.withinLimits hw)
    (fun _ _ _ _ hw he => by cases he <;> exact hw)

theorem launchesSound (hr : RuntimeRun runtime s₀ steps s) (h₀ : WellFormed runtime s₀)
    (hlaunches : s₀.launchDiscovery = ∅) : LaunchesSound runtime steps s := by
  refine hr.induction ?_ ?_ ?_
  · intro launchRef record hrecord
    simp [hlaunches] at hrecord
  · intro before t s es s' hbefore hsound hb launchRef record hrecord
    rcases hb.effect.discoveryStep.launch_cases hrecord with
      hold | ⟨drawn, n, hdrawn, hmem, -, hn, href⟩
    · obtain ⟨⟨drawn, hdrawn, hmem⟩, n, hn, href⟩ := hsound launchRef record hold
      have hle := (hb.effect.evolves (wellFormed hbefore h₀)).issued_le
      exact ⟨⟨drawn, hdrawn.append _, hmem⟩, n, hn.trans_le hle, href⟩
    · exact ⟨⟨drawn, occurs_snoc.mpr (.inr hdrawn), hmem⟩, n, hn, href⟩
  · intro before s s' _ hsound he launchRef record hrecord
    have hold : s.launchDiscovery.lookup launchRef = some record ∧ s'.issued = s.issued := by
      cases he <;> exact ⟨hrecord, rfl⟩
    obtain ⟨⟨drawn, hdrawn, hmem⟩, n, hn, href⟩ := hsound launchRef record hold.1
    exact ⟨⟨drawn, hdrawn.append _, hmem⟩, n, hold.2 ▸ hn, href⟩

theorem not_consumed_again {mid : List RuntimeStep} {f : RuntimeStep} {u : Nat}
    (hr : RuntimeRun runtime s₀ (before ++ e :: (mid ++ f :: after)) s)
    (h₀ : WellFormed runtime s₀) (hlaunches : s₀.launchDiscovery = ∅) (ht : e.task = some t)
    (hu : f.task = some u) (hx : .launchConsumed launchRef ∈ e.events)
    (hx' : .launchConsumed launchRef ∈ f.events) : False := by
  have hr' : RuntimeRun runtime s₀ ((before ++ e :: mid) ++ f :: after) s := by simpa using hr
  obtain ⟨⟨record, hrecord⟩, hnone⟩ := (hr.effect ht).of_launchConsumed hx
  obtain ⟨⟨record', hrecord'⟩, -⟩ := (hr'.effect hu).of_launchConsumed hx'
  obtain ⟨-, n, hn, rfl⟩ := launchesSound hr.prior h₀ hlaunches launchRef record hrecord
  have hle := ((hr.effect ht).evolves (wellFormed hr.prior h₀)).issued_le
  have hgone : f.pre.launchDiscovery.lookup ⟨runtime.uuids.issue "launch" n⟩ = none ∧
      n < f.pre.issued := by
    refine hr'.prior.persists (P := fun s => s.launchDiscovery.lookup
      ⟨runtime.uuids.issue "launch" n⟩ = none ∧ n < s.issued) ⟨hnone, hn.trans_le hle⟩ ?_ ?_
    · rintro earlier v s es s' hearlier ⟨hnone, hn⟩ hb
      have hissued := (hb.effect.evolves (wellFormed hearlier h₀)).issued_le
      refine ⟨?_, hn.trans_le hissued⟩
      by_contra hsome
      obtain ⟨record, hrecord⟩ := Option.ne_none_iff_exists'.mp hsome
      rcases hb.effect.discoveryStep.launch_cases hrecord with hold | ⟨_, m, -, -, hm, -, href⟩
      · simp [hnone] at hold
      · simp only [LaunchRef.mk.injEq, UuidSource.issue_inj] at href
        omega
    · intro s s' hgone he
      cases he <;> exact hgone
  simp [hgone.1] at hrecord'

end RuntimeRun

/-! ## Calls of the driver -/

/-- What is so when the driver is asked to launch an application for a reference. -/
structure LaunchedFor (runtime : RuntimeService) (before : List RuntimeStep) (t : Nat)
    (input : LaunchApplicationInput) (application : DriverLaunchableApplication) : Prop where
  entered : .entered (.launchApplication input) ∈ history t before
  consumed : .launchConsumed input.launchRef ∈ history t before
  issued : ∃ expected drawn, Occurs (.launchesDiscovered drawn) before ∧
    (input.launchRef, expected) ∈ drawn ∧ expected.matchesIdentity application = true
  recorded : ∃ f ∈ before, f.task = some t ∧ ∃ record,
    f.pre.launchDiscovery.lookup input.launchRef = some record ∧
      record.runtimeEpoch = runtime.epoch ∧ f.pre.now < record.expiresAt ∧
      record.application.matchesIdentity application = true
  notRunning : ∃ own running rest, history t before = own ++ .applicationsListed running :: rest ∧
    (∀ later, .applicationsListed later ∉ rest) ∧
    ∀ other ∈ running, ¬ (other.applicationId = application.applicationId ∧
      other.identity = application.identity)

theorem RuntimeRun.launchedFor {application : DriverLaunchableApplication}
    (hr : RuntimeRun runtime s₀ (before ++ e :: after) s) (h₀ : WellFormed runtime s₀)
    (hlaunches : s₀.launchDiscovery = ∅) (ht : e.task = some t)
    (hx : .launchCalled application ∈ e.events) :
    calls (history t before) = [] ∧ ∃ input, LaunchedFor runtime before t input application := by
  obtain ⟨hcalls, input, hrunning, hlaunchable⟩ := hr.reported ht hx rfl
  refine ⟨hcalls, input, ?_⟩
  obtain ⟨expected, hresolved, hmatches⟩ := hlaunchable.resolved
  obtain ⟨own, running, rest, hown, hlast, hnone⟩ := hlaunchable.notRunning
  obtain ⟨earlier, f, later, rfl, hf, hevent⟩ := exists_split_of_mem_history hresolved
  obtain ⟨record, hrecord, rfl, hepoch, hlive⟩ := hr.prior.reported hf hevent rfl
  obtain ⟨⟨drawn, hdrawn, hmem⟩, -⟩ :=
    launchesSound hr.prior.prior h₀ hlaunches input.launchRef record hrecord
  exact
    { entered := entered_of_phase (congrArg Phase.command hrunning)
      consumed := hlaunchable.consumed
      issued := ⟨record.application, drawn, hdrawn.append _, hmem, hmatches⟩
      recorded := ⟨f, by simp, hf, record, hrecord, hepoch, hlive, hmatches⟩
      notRunning := ⟨own, running, rest, hown, hlast, by simpa [alreadyRunning] using hnone⟩ }

theorem RuntimeRun.launched_once {before' after' : List RuntimeStep} {e' : RuntimeStep} {t' : Nat}
    {input input' : LaunchApplicationInput} {application application' : DriverLaunchableApplication}
    (hr : RuntimeRun runtime s₀ steps s) (h₀ : WellFormed runtime s₀)
    (hlaunches : s₀.launchDiscovery = ∅) (hsteps : steps = before ++ e :: after)
    (hsteps' : steps = before' ++ e' :: after') (ht : e.task = some t) (ht' : e'.task = some t')
    (hx : .launchCalled application ∈ e.events) (hx' : .launchCalled application' ∈ e'.events)
    (hentered : .entered (.launchApplication input) ∈ history t before)
    (hentered' : .entered (.launchApplication input') ∈ history t' before')
    (href : input.launchRef = input'.launchRef) : before = before' := by
  have hr₁ : RuntimeRun runtime s₀ (before ++ e :: after) s := hsteps ▸ hr
  have hr₂ : RuntimeRun runtime s₀ (before' ++ e' :: after') s := hsteps' ▸ hr
  obtain ⟨hcalls, cited, hcited⟩ := hr₁.launchedFor h₀ hlaunches ht hx
  obtain ⟨hcalls', cited', hcited'⟩ := hr₂.launchedFor h₀ hlaunches ht' hx'
  obtain rfl := Command.launchApplication.inj (hr₁.prior.entered_unique hcited.entered hentered)
  obtain rfl := Command.launchApplication.inj (hr₂.prior.entered_unique hcited'.entered hentered')
  obtain ⟨earlier, f, later, rfl, hf, hconsumed⟩ := exists_split_of_mem_history hcited.consumed
  obtain ⟨earlier', f', later', rfl, hf', hconsumed'⟩ :=
    exists_split_of_mem_history hcited'.consumed
  have hplaces : earlier ++ f :: (later ++ e :: after) =
      earlier' ++ f' :: (later' ++ e' :: after') := by
    simpa using hsteps.symm.trans hsteps'
  rcases places_cases hplaces with ⟨rfl, rfl, -⟩ | ⟨mid, rfl, hmid⟩ | ⟨mid, rfl, hmid⟩
  · -- One consumption: the task is the same, and it makes one call.
    obtain rfl : t = t' := Option.some.inj (hf.symm.trans hf')
    exact (place_of_call (hsteps.symm.trans hsteps') ht ht' hx hx' rfl rfl hcalls hcalls').1
  · have hrun : RuntimeRun runtime s₀
        (earlier ++ f :: (mid ++ f' :: (later' ++ e' :: after'))) s := by
      simpa using hr₂
    exact (hrun.not_consumed_again h₀ hlaunches hf hf' hconsumed (href ▸ hconsumed')).elim
  · have hrun : RuntimeRun runtime s₀
        (earlier' ++ f' :: (mid ++ f :: (later ++ e :: after))) s := by
      simpa using hr₁
    exact (hrun.not_consumed_again h₀ hlaunches hf' hf hconsumed' (href ▸ hconsumed)).elim

/-! ## Opened sessions -/

theorem forall₂_of_mapM {α β ε : Type} {f : α → Except ε β} {xs : List α} {ys : List β}
    (hm : xs.mapM f = .ok ys) : List.Forall₂ (fun x y => f x = .ok y) xs ys := by
  induction xs generalizing ys with
  | nil =>
      cases hm
      exact .nil
  | cons x xs ih =>
      rw [List.mapM_cons] at hm
      cases hx : f x with
      | error error => simp [hx, bind, Except.bind] at hm
      | ok y =>
          cases hrest : xs.mapM f with
          | error error => simp [hx, hrest, bind, Except.bind] at hm
          | ok rest =>
              simp only [hx, hrest, bind, Except.bind, pure, Except.pure, Except.ok.injEq] at hm
              subst hm
              exact .cons hx (ih hrest)

theorem expectedApplication_eq_ok {discovery : Table DiscoveryRef DiscoveryRecord} {epoch : String}
    {now : Nat} {discoveryRef : DiscoveryRef} {application : DriverApplication}
    (hok : expectedApplication discovery epoch now discoveryRef = .ok application) :
    ∃ record, discovery.lookup discoveryRef = some record ∧ record.runtimeEpoch = epoch ∧
      now < record.expiresAt ∧ record.application = application := by
  rw [expectedApplication] at hok
  split at hok
  · rename_i record hrecord
    split at hok
    · rename_i hlive
      exact ⟨record, hrecord, hlive.1, hlive.2, Except.ok.inj hok⟩
    · contradiction
  · contradiction

theorem currentApplication_eq_ok {listed : List DriverApplication}
    {expected current : DriverApplication}
    (hok : currentApplication listed expected = .ok current) :
    current ∈ listed ∧ expected.matchesGeneration current = true := by
  rw [currentApplication] at hok
  split at hok
  · rename_i found hfound
    cases hok
    exact ⟨List.mem_of_find?_eq_some hfound, List.find?_some hfound⟩
  · contradiction

theorem resolveApplications_eq_ok {expected listed resolved : List DriverApplication}
    (hok : resolveApplications expected listed = .ok resolved) :
    expected.mapM (currentApplication listed) = .ok resolved ∧
      (resolved.map DriverApplication.key).Nodup := by
  rw [resolveApplications] at hok
  cases hmap : expected.mapM (currentApplication listed) with
  | error error => simp [hmap, bind, Except.bind] at hok
  | ok found =>
      simp only [hmap, bind, Except.bind] at hok
      split at hok
      · rename_i hnodup
        cases hok
        exact ⟨rfl, hnodup⟩
      · contradiction

theorem forall₂_compose {α β γ : Type} {R : α → β → Prop} {S : β → γ → Prop} {T : α → γ → Prop}
    (hT : ∀ a b c, R a b → S b c → T a c) {as : List α} {bs : List β} {cs : List γ}
    (hR : List.Forall₂ R as bs) (hS : List.Forall₂ S bs cs) : List.Forall₂ T as cs := by
  induction hR generalizing cs with
  | nil =>
      cases hS
      exact .nil
  | cons hab _ ih =>
      cases hS with
      | cons hbc hrest => exact .cons (hT _ _ _ hab hbc) (ih hrest)

/-- The reference led to the application when the command of `t` looked at its record. -/
def RefersTo (runtime : RuntimeService) (before : List RuntimeStep) (t : Nat)
    (listed : List DriverApplication) (discoveryRef : DiscoveryRef)
    (application : DriverApplication) : Prop :=
  application ∈ listed ∧ ∃ earlier f later record, before = earlier ++ f :: later ∧
    f.task = some t ∧ f.pre.discovery.lookup discoveryRef = some record ∧
    record.runtimeEpoch = runtime.epoch ∧
    (∃ g ∈ earlier, g.task = some t ∧ g.pre.now < record.expiresAt) ∧
    record.application.matchesGeneration application = true

theorem RuntimeRun.selected {session : Session}
    (hr : RuntimeRun runtime s₀ (before ++ e :: after) s)
    (hselected : Selected (history t before) session) :
    (session.allowedApplications.map DriverApplication.key).Nodup ∧
      ∃ listed, .applicationsListed listed ∈ history t before ∧
        List.Forall₂ (RefersTo runtime before t listed) session.manifest.applicationRefs
          session.allowedApplications := by
  obtain ⟨expected, now, listed, hresolved, hlisted, hok⟩ := hselected
  obtain ⟨hmap, hnodup⟩ := resolveApplications_eq_ok hok
  obtain ⟨earlier, f, later, rfl, hf, hevent⟩ := exists_split_of_mem_history hresolved
  obtain ⟨hclock, hexpected⟩ := hr.prior.reported hf hevent rfl
  obtain ⟨first, g, rest, rfl, hg, hread⟩ := exists_split_of_mem_history hclock
  have hnow : now = g.pre.now := hr.prior.prior.reported hg hread rfl
  refine ⟨hnodup, listed, hlisted, ?_⟩
  refine forall₂_compose (fun discoveryRef application current hrecorded hcurrent => ?_)
    (forall₂_of_mapM hexpected) (forall₂_of_mapM hmap)
  obtain ⟨record, hrecord, hepoch, hlive, rfl⟩ := expectedApplication_eq_ok hrecorded
  obtain ⟨hmem, hmatches⟩ := currentApplication_eq_ok hcurrent
  exact ⟨hmem, _, f, later, record, rfl, hf, hrecord, hepoch,
    ⟨g, by simp, hg, hnow ▸ hlive⟩, hmatches⟩

theorem RuntimeEffect.of_opened {session : Session} (he : RuntimeEffect runtime h s es s')
    (hx : .opened session ∈ es) :
    phase h = .running (.openSession session.manifest) ∧ Selected h session := by
  cases he.of_opening hx rfl with
  | opened hrunning hselected =>
      obtain rfl := RuntimeEvent.opened.inj (List.mem_singleton.mp hx)
      exact ⟨hrunning, hselected⟩
  | refused hrunning hselected =>
      simp only [List.mem_cons, List.not_mem_nil, or_false, reduceCtorEq] at hx
      obtain rfl := RuntimeEvent.opened.inj hx
      exact ⟨hrunning, hselected⟩
  | closed => exact absurd (kind_closingEvents hx) nofun
  | unmapped | rejected => simp at hx
  | expired =>
      simp only [List.mem_cons, reduceCtorEq, false_or] at hx
      exact absurd (kind_closingEvents hx) nofun

/-! ## The guard -/

/-- What holds of discovery, launching and opening in a run that has reached `s`. -/
structure DiscoveryGuarded (runtime : RuntimeService) (steps : List RuntimeStep)
    (s : RuntimeState) : Prop where
  discovery_le : s.discovery.size ≤ runtime.config.maxDiscoveryRecords
  launches_le : s.launchDiscovery.size ≤ runtime.config.maxLaunchDiscoveryRecords
  launched : ∀ before e after t application, steps = before ++ e :: after → e.task = some t →
    .launchCalled application ∈ e.events → ∃ input, LaunchedFor runtime before t input application
  once : ∀ before e after t input application before' e' after' t' input' application',
    steps = before ++ e :: after → steps = before' ++ e' :: after' →
    e.task = some t → e'.task = some t' →
    .launchCalled application ∈ e.events → .launchCalled application' ∈ e'.events →
    .entered (.launchApplication input) ∈ history t before →
    .entered (.launchApplication input') ∈ history t' before' →
    input.launchRef = input'.launchRef → before = before'
  opened : ∀ before e after t session, steps = before ++ e :: after → e.task = some t →
    .opened session ∈ e.events →
    .entered (.openSession session.manifest) ∈ history t before ∧
      (session.allowedApplications.map DriverApplication.key).Nodup ∧
      ∃ listed, .applicationsListed listed ∈ history t before ∧
        List.Forall₂ (RefersTo runtime before t listed) session.manifest.applicationRefs
          session.allowedApplications

theorem discovery_guarded (runtime : RuntimeService) (c : RuntimePool)
    (hc : Reachable runtime.system c) : DiscoveryGuarded runtime c.steps c.shared := by
  obtain ⟨s₀, ⟨now, rfl⟩, hr⟩ := runtime.run_of_reachable hc
  have h₀ := WellFormed.initial runtime now
  have hlimits := hr.withinLimits ⟨Nat.zero_le _, Nat.zero_le _⟩
  refine ⟨hlimits.1, hlimits.2, ?_, ?_, ?_⟩
  · intro before e after t application hsteps ht hx
    exact (RuntimeRun.launchedFor (hsteps ▸ hr) h₀ rfl ht hx).2
  · intro before e after t input application before' e' after' t' input' application' hsteps hsteps'
      ht ht' hx hx' hentered hentered' href
    exact hr.launched_once h₀ rfl hsteps hsteps' ht ht' hx hx' hentered hentered' href
  · intro before e after t session hsteps ht hx
    obtain ⟨hrunning, hselected⟩ := (RuntimeRun.effect (hsteps ▸ hr) ht).of_opened hx
    exact ⟨entered_of_phase (congrArg Phase.command hrunning),
      RuntimeRun.selected (hsteps ▸ hr) hselected⟩

/-! ### One launch -/

def notes : DriverLaunchableApplication :=
  ⟨"notes", "target", "identity", "Notes", "app.notes", .unsupported none⟩

def launchedNotes : DriverLaunchOutput :=
  ⟨⟨"notes", "1", "identity", "Notes", "app.notes", false, .unsupported none⟩, .semantic⟩

def launchMoves : List (Move RuntimeReply RuntimeCall RuntimeLabel) :=
  .spawn (.execute .discoverLaunchableApplications) ::
    play 0 [.none, .none, .none, .launchables (.ok [notes]), .wallClock (some "later"), .none,
      .none, .none, .none] ++
  .spawn (.execute (.launchApplication ⟨⟨"launch_"⟩, false⟩)) ::
    play 1 [.none, .none, .none, .none, .launchables (.ok [notes]), .applications (.ok []), .none,
      .none, .none, .launched (.ok launchedNotes), .wallClock (some "later"), .none, .none, .none,
      .none]

theorem launchMoves_run : ((Pool.start (.initial exampleRuntime 0)).run exampleRuntime.system
    launchMoves).isSome = true :=
  rfl

def launchPool : RuntimePool :=
  ((Pool.start (.initial exampleRuntime 0)).run exampleRuntime.system launchMoves).get
    launchMoves_run

theorem launchPool_reachable : Reachable exampleRuntime.system launchPool :=
  Reachable.of_run (S := exampleRuntime.system) ⟨0, rfl⟩ launchMoves_run

/-- The notes are launched once, for the reference that was issued for them. -/
theorem notes_launched : ∃ before e after, launchPool.steps = before ++ e :: after ∧
    e.task = some 1 ∧ .launchCalled notes ∈ e.events ∧
    ∃ input, LaunchedFor exampleRuntime before 1 input notes := by
  have hsteps : launchPool.steps = launchPool.steps.take 17 ++
      launchPool.steps.get ⟨17, by decide⟩ :: launchPool.steps.drop 18 := rfl
  exact ⟨_, _, _, hsteps, rfl, .head _,
    (discovery_guarded exampleRuntime _ launchPool_reachable).launched _ _ _ 1 _ hsteps rfl
      (.head _)⟩

end NexusCua.Runtime
