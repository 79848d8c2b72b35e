import Bimarz.KillSwitch.Runs

/-!
# Retrying a deactivation

After any run, let every command run and every join succeed from then on. `retry_iff` says when
one more `deactivate` turns the kill-switch off and leaves none of its rules in the chains:
exactly when both deletions of the retry find a rule, no other own rule is left, and the watcher
is a thread that can be joined. A removal that got past its first command does not come back from
that: the retry starts at the rule that is already gone.
-/

namespace Bimarz.KillSwitch

open Effect Effect.Act

/-! ## Own rules come first -/

/-- The rules of the kill-switch's own entries. -/
def Chain.ownRules (c : Chain) : List Rule := (c.filter fun e => e.own).map Entry.rule

/-- The kill-switch's entries stand before those of others: it inserts at the head. -/
def Chain.OwnFirst (c : Chain) : Prop := c.Pairwise fun e e' => e'.own = true → e.own = true

theorem ownFree_iff {c : Chain} : c.OwnFree ↔ c.ownRules = [] := by
  simp [Chain.OwnFree, Chain.ownRules, List.filter_eq_nil_iff]

theorem ownFirst_cons {c : Chain} (h : c.OwnFirst) (rule : Rule) :
    Chain.OwnFirst (⟨rule, true⟩ :: c) := List.pairwise_cons.mpr ⟨fun _ _ _ => rfl, h⟩

theorem Chain.OwnFirst.delete {c : Chain} (h : c.OwnFirst) (rule : Rule) :
    (c.delete rule).OwnFirst := List.Pairwise.sublist List.eraseP_sublist h

theorem ownFirst_of_ownFree {c : Chain} (h : c.OwnFree) : c.OwnFirst :=
  List.pairwise_of_forall_mem_list fun e _ e' he' ho => absurd ho (by simp [h e' he'])

/-- Behind an entry of somebody else there is no own rule. -/
theorem ownRules_eq_nil_of_cons {e : Entry} {c : Chain} (h : Chain.OwnFirst (e :: c))
    (he : e.own = false) : c.ownRules = [] := by
  refine ownFree_iff.mp fun e' he' => ?_
  by_contra hn
  have := (List.pairwise_cons.mp h).1 e' he' (by simpa using hn)
  simp [he] at this

/-- **A deletion takes an own rule if there is one.** -/
theorem ownRules_delete {c : Chain} (h : c.OwnFirst) (rule : Rule) :
    (c.delete rule).ownRules = c.ownRules.erase rule := by
  induction c with
  | nil => rfl
  | cons e c ih =>
    have hc : Chain.OwnFirst c := (List.pairwise_cons.mp h).2
    obtain ⟨r, own⟩ := e
    by_cases hr : r = rule
    · subst hr
      have hdel : Chain.delete (⟨r, own⟩ :: c) r = c := by simp [Chain.delete]
      rw [hdel]
      cases own with
      | true => simp [Chain.ownRules]
      | false =>
        have hnil := ownRules_eq_nil_of_cons h rfl
        have hcons : Chain.ownRules (⟨r, false⟩ :: c) = Chain.ownRules c := by simp [Chain.ownRules]
        rw [hcons, hnil]
        rfl
    · have hdel : Chain.delete (⟨r, own⟩ :: c) rule = ⟨r, own⟩ :: Chain.delete c rule := by
        simp [Chain.delete, hr]
      rw [hdel]
      have := ih hc
      cases own with
      | true => simpa [Chain.ownRules, List.erase_cons, hr] using this
      | false => simpa [Chain.ownRules] using this

/-! ## Every run -/

/-- What holds after every run: own rules come first, and a kernel-level state names the interface
and the UID its rules were built for. -/
structure Addressed (f : Filter) (sw : Switch) : Prop where
  output : f.output.OwnFirst
  input : f.input.OwnFirst
  kernel : sw.Kernel → ∃ interface uid,
    sw.interface = some interface ∧ uidOf sw.xrayUid = some uid

theorem addressed_activate {s : System} (interface : String) (xrayUid : Option ℤ)
    (h : Addressed s.filter s.switch) :
    Addressed (System.activate interface xrayUid s).2.filter
      (System.activate interface xrayUid s).2.switch := by
  have hsoft : (Switch.on false interface xrayUid).Kernel → ∃ interface' uid,
      (Switch.on false interface xrayUid).interface = some interface' ∧
        uidOf (Switch.on false interface xrayUid).xrayUid = some uid := fun hk => by cases hk.2
  rcases activate_cases s interface xrayUid with
    ⟨-, hf, hsw⟩ | ⟨-, hsw, hf, -⟩ | ⟨hsw, uid, -, -, -, hf⟩ | ⟨hsw, uid, -, -, -, -, hf⟩ |
      ⟨hsw, uid, ha, -, -, -, hf⟩
  · rw [hf, hsw]; exact h
  · rw [hf, hsw]; exact ⟨h.output, h.input, hsoft⟩
  · rw [hf, hsw]; exact ⟨ownFirst_cons h.output _, h.input, hsoft⟩
  · rw [hf, hsw]; exact ⟨ownFirst_cons h.output _, ownFirst_cons h.input _, hsoft⟩
  · rw [hf, hsw]
    exact ⟨ownFirst_cons h.output _, ownFirst_cons h.input _, fun _ => ⟨interface, uid, rfl, ha.2.2⟩⟩

theorem addressed_deactivate {s : System} (h : Addressed s.filter s.switch) :
    Addressed (System.deactivate s).2.filter (System.deactivate s).2.switch := by
  by_cases hk : s.switch.Kernel
  · obtain ⟨interface, uid, hi, hu⟩ := h.kernel hk
    obtain ⟨_, s', hrun, hcases⟩ := deactivate_kernel s hk hi hu
    have hfirst : (s.filter.removeFirst interface uid).input.OwnFirst := h.input.delete _
    have hoff : s.switch.off.Kernel → ∃ interface' uid',
        s.switch.off.interface = some interface' ∧ uidOf s.switch.off.xrayUid = some uid' :=
      fun hk' => absurd hk' (not_kernel_off _)
    rw [hrun]
    rcases hcases with ⟨-, hf, hsw, -⟩ | ⟨-, -, hf, hsw, -⟩ | ⟨-, -, hf, ⟨-, hsw⟩ | ⟨-, hsw⟩, -⟩
    · rw [hf, hsw]; exact h
    · rw [hf, hsw]; exact ⟨h.output, hfirst, h.kernel⟩
    · rw [hf, hsw]; exact ⟨h.output.delete _, hfirst, hoff⟩
    · rw [hf, hsw]; exact ⟨h.output.delete _, hfirst, h.kernel⟩
  · obtain ⟨_, s', hrun, hf, ⟨-, hsw⟩ | ⟨-, hsw⟩, -⟩ := deactivate_soft s (Or.inl hk)
    · rw [hrun, hf, hsw]
      exact ⟨h.output, h.input, fun hk' => absurd hk' (not_kernel_off _)⟩
    · rw [hrun, hf, hsw]; exact h

theorem addressed_step (s : System) (c : Call) (h : Addressed s.filter s.switch) :
    Addressed (c.step s).filter (c.step s).switch := by
  refine step_keeps c h (fun interface xrayUid _ => ?_) fun _ => ?_
  · exact addressed_activate interface xrayUid h
  · exact addressed_deactivate h

theorem addressed_of_runs (output input : List Rule) (fates : Stream' Fate)
    (probes prints starts joins : Stream' Bool) (gaps : Stream' (List WatcherStep)) (calls : List Call) :
    let s := runAll Call.step (System.fresh output input fates probes prints starts joins gaps) calls
    Addressed s.filter s.switch :=
  runAll_invariant (I := fun s => Addressed s.filter s.switch) (fun s c h => addressed_step s c h)
    ⟨ownFirst_of_ownFree (ownFree_map output), ownFirst_of_ownFree (ownFree_map input),
      fun hk => absurd hk.1 Bool.false_ne_true⟩ calls

/-! ## The retry -/

/-- From here on every command runs and every join ends in time. -/
def System.faithful (s : System) : System :=
  { s with host := ⟨s.filter, Stream'.const .runs⟩, joins := Stream'.const true }

/-- A chain in which deleting `rule` succeeds and leaves no own rule. -/
def Chain.Clears (c : Chain) (rule : Rule) : Prop :=
  rule ∈ c.rules ∧ (c.ownRules = [] ∨ c.ownRules = [rule])

/-- Deactivating once more can work: outside kernel mode nothing is left to delete; in kernel mode
each of the two deletions finds its rule, which is the only own rule left. -/
def Retryable (f : Filter) (sw : Switch) : Prop :=
  (¬sw.Kernel → f.OwnFree) ∧
  ∀ interface uid, sw.Kernel → sw.interface = some interface → uidOf sw.xrayUid = some uid →
    f.output.Clears (outputRule (deletedInterface interface) uid) ∧
      f.input.Clears (inputRule (deletedInterface interface) uid)

theorem clears_iff {c : Chain} {rule : Rule} (h : c.OwnFirst) (hm : rule ∈ c.rules) :
    (c.delete rule).OwnFree ↔ c.Clears rule := by
  rw [ownFree_iff, ownRules_delete h, List.erase_eq_nil_iff]
  exact ⟨fun h => ⟨hm, h⟩, fun h => h.2⟩

theorem active_of_kernel_switch {s : System} {sw : Switch} (h : s.switch = sw) (hk : sw.Kernel) :
    s.state.active = true := by
  subst h; exact hk.1

/-- A thread that was started is joined. -/
theorem watcherEnds_iff {s : System} (hj : s.joins.head = true) :
    s.WatcherEnds ↔ ¬s.Unstarted := by
  rw [← requested_unstarted s]
  constructor
  · exact fun h => System.Ends.started h
  · intro h
    cases hthread : s.requested.manager.watcherThread with
    | absent => exact Or.inl hthread
    | unstarted => exact absurd hthread h
    | alive => exact Or.inr ⟨hthread, Or.inr hj⟩

/-- The retry of one state, for a firewall and a watcher that do what they are told. -/
theorem deactivate_clears_iff {s : System} (h : Addressed s.filter s.switch)
    (hf : s.host.fates = Stream'.const .runs) (hj : s.joins.head = true) :
    ((System.deactivate s).2.state.active = false ∧ (System.deactivate s).2.filter.OwnFree) ↔
      Retryable s.filter s.switch ∧ (s.Unstarted → s.state.active = false) := by
  have hend : s.afterGap.WatcherEnds ↔ ¬s.Unstarted :=
    (watcherEnds_iff (s := s.afterGap) hj).trans (afterGap_unstarted s).not
  by_cases hk : s.switch.Kernel
  · obtain ⟨interface, uid, hi, hu⟩ := h.kernel hk
    have hret : Retryable s.filter s.switch ↔
        s.filter.output.Clears (outputRule (deletedInterface interface) uid) ∧
          s.filter.input.Clears (inputRule (deletedInterface interface) uid) := by
      refine ⟨fun hr => hr.2 interface uid hk hi hu, fun hr => ⟨fun hn => absurd hk hn, ?_⟩⟩
      intro interface' uid' _ hi' hu'
      obtain rfl : interface = interface' := Option.some.inj (hi.symm.trans hi')
      obtain rfl : uid = uid' := Option.some.inj (hu.symm.trans hu')
      exact hr
    have hin : DeletesInput interface uid s.host ↔
        inputRule (deletedInterface interface) uid ∈ s.filter.input.rules := by
      unfold DeletesInput; rw [hf]; exact and_iff_right rfl
    have hout : DeletesOutput interface uid s.host ↔
        outputRule (deletedInterface interface) uid ∈ s.filter.output.rules := by
      unfold DeletesOutput; rw [hf]; exact and_iff_right rfl
    have hon : s.state.active = true := hk.1
    have hjoinable : (s.Unstarted → s.state.active = false) ↔ ¬s.Unstarted := by
      rw [hon]
      exact imp_congr_right fun _ => iff_of_false Bool.true_eq_false.mp id
    obtain ⟨_, s', hrun, hcases⟩ := deactivate_kernel s hk hi hu
    rw [hret, hrun, hjoinable]
    rcases hcases with ⟨h₁, -, hsw, -⟩ | ⟨-, h₂, -, hsw, -⟩ |
      ⟨h₁, h₂, hf', ⟨hended, hsw⟩ | ⟨hn, hsw⟩, -⟩
    · have ha : s'.state.active = true := active_of_kernel_switch hsw hk
      exact ⟨fun ⟨hn, _⟩ => Bool.noConfusion (ha.symm.trans hn),
        fun ⟨⟨_, hc⟩, _⟩ => absurd (hin.mpr hc.1) h₁⟩
    · have ha : s'.state.active = true := active_of_kernel_switch hsw hk
      exact ⟨fun ⟨hn, _⟩ => Bool.noConfusion (ha.symm.trans hn),
        fun ⟨⟨hc, _⟩, _⟩ => absurd (hout.mpr hc.1) h₂⟩
    · have ha : s'.state.active = false := congrArg Switch.active hsw
      rw [hf', ← clears_iff h.output (hout.mp h₂), ← clears_iff h.input (hin.mp h₁),
        and_iff_left (hend.mp hended)]
      exact and_iff_right ha
    · have ha : s'.state.active = true := active_of_kernel_switch hsw hk
      exact ⟨fun ⟨hn', _⟩ => Bool.noConfusion (ha.symm.trans hn'),
        fun ⟨_, hstarted⟩ => absurd (hend.mpr hstarted) hn⟩
  · have hret : Retryable s.filter s.switch ↔ s.filter.OwnFree :=
      ⟨fun hr => hr.1 hk, fun hfree => ⟨fun _ => hfree, fun _ _ hk' => absurd hk' hk⟩⟩
    obtain ⟨_, s', hrun, hf', ⟨hended, hsw⟩ | ⟨hn, hsw⟩, -⟩ := deactivate_soft s (Or.inl hk)
    · have ha : s'.state.active = false := congrArg Switch.active hsw
      rw [hrun, hf', hret, and_iff_right ha,
        and_iff_left fun hunstarted => absurd hunstarted (hend.mp hended)]
    · have ha : s'.state.active = s.state.active := congrArg Switch.active hsw
      have hunstarted : s.Unstarted := not_not.mp fun hstarted => hn (hend.mpr hstarted)
      rw [hrun, hf', hret, and_comm]
      show _ ∧ s'.state.active = false ↔ _
      rw [ha]
      exact and_congr_right fun _ => ⟨fun hoff _ => hoff, fun hoff => hoff hunstarted⟩

/-- **Retrying.** After every run, a deactivation to which nothing fails any more turns the
kill-switch off and leaves none of its rules exactly in the retryable states with a watcher that
can be joined. -/
theorem retry_iff (output input : List Rule) (fates : Stream' Fate)
    (probes prints starts joins : Stream' Bool) (gaps : Stream' (List WatcherStep))
    (calls : List Call) :
    let s := (runAll Call.step
      (System.fresh output input fates probes prints starts joins gaps) calls).faithful
    ((System.deactivate s).2.state.active = false ∧ (System.deactivate s).2.filter.OwnFree) ↔
      Retryable s.filter s.switch ∧ (s.Unstarted → s.state.active = false) :=
  deactivate_clears_iff
    (addressed_of_runs output input fates probes prints starts joins gaps calls) rfl rfl

/-- **Stuck.** A deactivation that fails at its second command gives up; the retry then fails at
the INPUT rule, which is gone, and the OUTPUT rule stays for good. -/
theorem retry_stuck :
    ¬∀ (output input : List Rule) (fates : Stream' Fate)
      (probes prints starts joins : Stream' Bool) (gaps : Stream' (List WatcherStep)) (calls : List Call),
      let s := runAll Call.step (System.fresh output input fates probes prints starts joins gaps)
        (calls ++ [.deactivate])
      s.state.active = true →
        (System.deactivate s.faithful).2.state.active = false ∧
          (System.deactivate s.faithful).2.filter.OwnFree := by
  intro h
  have := (h [] [] (.cons .runs (.cons .runs (.cons .runs (.cons .nonZero (.const .runs)))))
    (.const true) (.const true) (.const true) (.const true) (.const [])
    [.activate "eth0" (some 1000)] (by decide)).1
  revert this
  decide

end Bimarz.KillSwitch
