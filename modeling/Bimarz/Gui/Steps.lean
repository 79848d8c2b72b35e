import Bimarz.Gui.Worker

/-!
# Rules for the steps of the worker

What a state assertion says of the worker is kept through whatever the environment does, unless it
speaks of the environment or of a stop. Such an assertion passes through ticks, answers and the
bursts of the event loop, and only the effects of the steps are left to look at.
-/

namespace Bimarz.Gui

open Effect Effect.Act
open KillSwitch (System)

/-! ## Awaiting -/

/-- The worker after a `stop` that may have come in. -/
def Worker.stopIf (s : Worker) (b : Bool) : Worker := if b then s.stop else s

theorem expired_stopIf (b : Bool) (s : Worker) : (s.stopIf b).expired = s.expired := by
  cases b <;> rfl

theorem expired_cancelled {s : Worker} {effect : Worker → Worker} (moment : Moment)
    (hexpired : ∀ s, (effect s).expired = s.expired) :
    (s.cancelled moment effect).expired = s.expired := by
  unfold Worker.cancelled
  cases moment.late with
  | false => rfl
  | true => exact hexpired s

theorem await_run (moment : Moment) (effect : Worker → Worker) (s : Worker) :
    await moment effect s = if (s.stopIf moment.stop).pending then
      (.error .cancelled, (s.stopIf moment.stop).cancelled moment effect) else
      (match moment.fate with
        | .returns => modify effect
        | .raises kind message => raise (.error kind message)
        | .expires => do
          modify fun s => { s.cancelled moment effect with expired := true }
          raise .cancelled : Work Unit) (s.stopIf moment.stop) := ite_run _ _ _ _

/-- **An awaited call** is cancelled if a cancellation waits, and ends as its fate says otherwise. -/
theorem await_cases (moment : Moment) (effect : Worker → Worker) (s : Worker) :
    ((s.stopIf moment.stop).pending = true ∧ await moment effect s =
      (.error .cancelled, (s.stopIf moment.stop).cancelled moment effect)) ∨
    ((s.stopIf moment.stop).pending = false ∧
      ((moment.fate = .returns ∧ await moment effect s = (.ok (), effect (s.stopIf moment.stop))) ∨
      (∃ kind message, moment.fate = .raises kind message ∧
        await moment effect s = (.error (.error kind message), s.stopIf moment.stop)) ∨
      (moment.fate = .expires ∧ await moment effect s = (.error .cancelled,
        { (s.stopIf moment.stop).cancelled moment effect with expired := true })))) := by
  rw [await_run]
  cases (s.stopIf moment.stop).pending with
  | true => exact Or.inl ⟨rfl, rfl⟩
  | false =>
    refine Or.inr ⟨rfl, ?_⟩
    cases moment.fate with
    | returns => exact Or.inl ⟨rfl, rfl⟩
    | raises kind message => exact Or.inr (Or.inl ⟨kind, message, rfl, rfl⟩)
    | expires => exact Or.inr (Or.inr ⟨rfl, rfl⟩)

/-! ## Assertions that the environment leaves alone -/

/-- `I` says nothing of a stop and of what the environment does next. -/
def Unobserved (I : Worker → Prop) : Prop :=
  ∀ s stopEvent pending expired stops replies moments rounds, I s →
    I { s with stopEvent, pending, expired, stops, replies, moments, rounds }

namespace Unobserved

variable {I P Q F : Worker → Prop} {α : Type}

theorem and (h : Unobserved I) (h' : Unobserved P) : Unobserved fun s => I s ∧ P s := by
  intro s stopEvent pending expired stops replies moments rounds hs
  exact ⟨h _ _ _ _ _ _ _ _ hs.1, h' _ _ _ _ _ _ _ _ hs.2⟩

theorem stop (h : Unobserved I) {s : Worker} (hs : I s) : I s.stop :=
  h s true (s.pending || s.loop = .running) s.expired s.stops s.replies s.moments s.rounds hs

theorem stopIf (h : Unobserved I) (b : Bool) {s : Worker} (hs : I s) : I (s.stopIf b) := by
  cases b with
  | false => exact hs
  | true => exact h.stop hs

theorem tick (h : Unobserved I) : Keeps I tick := by
  refine Keeps.modify fun s hs => ?_
  cases s.stops.head with
  | false => exact h s s.stopEvent s.pending s.expired s.stops.tail s.replies s.moments s.rounds hs
  | true =>
    exact h s.stop true s.stop.pending s.expired s.stops.tail s.replies s.moments s.rounds
      (h.stop hs)

theorem shouldStop (h : Unobserved I) : Keeps I shouldStop :=
  Keeps.bind h.tick fun _ => Keeps.reads _

theorem takeReply (h : Unobserved I) : Keeps I takeReply := by
  intro s hs
  exact h s s.stopEvent s.pending s.expired s.stops s.replies.tail s.moments s.rounds hs

theorem takeMoment (h : Unobserved I) : Keeps I takeMoment := by
  intro s hs
  exact h s s.stopEvent s.pending s.expired s.stops s.replies s.moments.tail s.rounds hs

theorem takeRound (h : Unobserved I) : Keeps I takeRound := by
  intro s hs
  exact h s s.stopEvent s.pending s.expired s.stops s.replies s.moments s.rounds.tail hs

/-- A call that does not await raises an `Exception`, or it takes effect. -/
theorem external (h : Unobserved P) {effect : Worker → Worker}
    (heffect : ∀ s, P s → Q (effect s)) :
    Triple P (external effect) (fun _ => Q) (fun e s => e.isException = true ∧ P s) := by
  have htick : Triple P Gui.tick (fun _ => P) (fun e s => e.isException = true ∧ P s) :=
    fun s hs => h.tick s hs
  refine Triple.bind htick fun _ => ?_
  refine Triple.bind (R := fun _ => P) (fun s hs => h.takeReply s hs) fun reply => ?_
  cases reply.failure with
  | none => exact Triple.bind (Triple.modify heffect) fun _ => Triple.pure fun s hs => hs
  | some failed => exact Triple.raise fun s hs => ⟨rfl, hs⟩

theorem external_id (h : Unobserved I) :
    Triple I (Gui.external id) (fun _ => I) (fun e s => e.isException = true ∧ I s) :=
  h.external fun _ hs => hs

/-- A call that does not await keeps what its effect keeps. -/
theorem keeps_external (h : Unobserved I) {effect : Worker → Worker}
    (heffect : ∀ s, I s → I (effect s)) : Keeps I (Gui.external effect) :=
  (h.external heffect).mono_error fun _ _ hs => hs.2

/-- An awaited call that does not return has taken effect or not. -/
theorem await (h : Unobserved P) (h' : Unobserved Q) (moment : Moment) {effect : Worker → Worker}
    (heffect : ∀ s, P s → Q (effect s)) :
    Triple P (await moment effect) (fun _ => Q) (fun _ s => P s ∨ Q s) := by
  have hcancelled : ∀ s, P s → P (s.cancelled moment effect) ∨ Q (s.cancelled moment effect) := by
    intro s hs
    unfold Worker.cancelled
    cases moment.late with
    | false =>
      exact Or.inl (h s s.stopEvent false s.expired s.stops s.replies s.moments s.rounds hs)
    | true =>
      exact Or.inr (h' (effect s) _ false _ _ _ _ _ (heffect s hs))
  intro s hs
  have ht : P (s.stopIf moment.stop) := h.stopIf moment.stop hs
  rcases await_cases moment effect s with
    ⟨-, hrun⟩ | ⟨-, ⟨-, hrun⟩ | ⟨kind, message, -, hrun⟩ | ⟨-, hrun⟩⟩ <;> rw [hrun]
  · exact hcancelled _ ht
  · exact heffect _ ht
  · exact Or.inl ht
  · exact (hcancelled _ ht).imp (h _ _ _ true _ _ _ _) (h' _ _ _ true _ _ _ _)

theorem keeps_await (h : Unobserved I) (moment : Moment) {effect : Worker → Worker}
    (heffect : ∀ s, I s → I (effect s)) : Keeps I (Gui.await moment effect) :=
  (h.await h moment heffect).mono_error fun _ _ hs => or_self_iff.mp hs

theorem drain (h : Unobserved I) : Keeps I drain := by
  refine Keeps.bind h.tick fun _ => Keeps.modify fun s hs => ?_
  exact h s s.stopEvent false s.expired s.stops s.replies s.moments s.rounds hs

/-- What a task leaves behind, a burst of it leaves behind: `F` where it does not end well. -/
theorem burst {task : Work α} {Q : α → Worker → Prop} (hP : Unobserved P)
    (hQ : ∀ a, Unobserved (Q a)) (hF : Unobserved F) (hPF : ∀ s, P s → F s)
    (h : Triple P task Q (fun _ => F)) : Triple P (burst task) Q (fun _ => F) := by
  have hwait : Triple P (waitFor task) Q (fun _ => F) := by
    refine Triple.bind (R := fun _ => P) (Triple.modify fun s hs => ?_) fun _ => ?_
    · exact hP s s.stopEvent s.pending false s.stops s.replies s.moments s.rounds hs
    · refine Triple.handle h (fun e _ => ?_) fun _ _ _ hs => hs
      refine Triple.bind (R := fun _ => F) (Triple.reads fun s hs => hs) fun isExpired => ?_
      exact Triple.ite (fun _ => Triple.raise fun s hs => hs) fun _ => Triple.raise fun s hs => hs
  have htick : Triple P Gui.tick (fun _ => P) (fun _ => F) := fun s hs => hP.tick s hs
  refine Triple.bind htick fun _ => ?_
  refine Triple.bind (R := fun _ => P) (Triple.reads fun s hs => hs) fun isPending => ?_
  refine Triple.ite (fun _ => ?_) fun _ => ?_
  · refine Triple.bind (R := fun _ => P) (Triple.modify fun s hs => ?_)
      fun _ => Triple.raise fun s hs => hPF s hs
    exact hP s s.stopEvent false s.expired s.stops s.replies s.moments s.rounds hs
  · refine Triple.ensure hwait (fun a s hs => ?_) fun e s hs => ?_
    · exact (hQ a).drain s hs
    · exact hF.drain s hs

/-- The same, for a call that finds the event loop open. -/
theorem runAsyncFn {task : Work α} {Q : α → Worker → Prop} (hP : Unobserved P)
    (hQ : ∀ a, Unobserved (Q a)) (hF : Unobserved F) (hPF : ∀ s, P s → F s)
    (h : Triple (fun s => P s ∧ s.loop = .running) task Q (fun _ => F)) :
    Triple P (runAsyncFn task) Q (fun _ => F) := by
  have hopen : Unobserved fun s => P s ∧ s.loop = .running :=
    hP.and fun _ _ _ _ _ _ _ _ hs => hs
  refine Triple.bind (R := fun status s => P s ∧ s.loop = status)
    (Triple.reads fun s hs => ⟨hs, rfl⟩) fun status => ?_
  cases status with
  | none => exact Triple.raise fun s hs => hPF s hs.1
  | closed => exact Triple.raise fun s hs => hPF s hs.1
  | running => exact burst hopen hQ hF (fun s hs => hPF s hs.1) h

theorem keeps_runAsyncFn (hI : Unobserved I) {task : Work α} (h : Keeps I task) :
    Keeps I (Gui.runAsyncFn task) :=
  hI.runAsyncFn (fun _ => hI) hI (fun _ hs => hs)
    (h.conseq (fun _ hs => hs.1) (fun _ _ hs => hs) fun _ _ hs => hs)

end Unobserved

theorem suppress_triple {P Q : Worker → Prop} {E E' : Exc → Worker → Prop} {m : Work Unit}
    (hm : Triple P m (fun _ => Q) E) (hcaught : ∀ e s, e.isException = true → E e s → Q s)
    (huncaught : ∀ e s, e.isException = false → E e s → E' e s) :
    Triple P (suppress m) (fun _ => Q) E' :=
  Triple.handle hm (fun e he => Triple.pure fun s hs => hcaught e s he hs) huncaught

/-! ## Views that a burst leaves alone -/

/-- A view that does not depend on stops, on awaited calls or on the engine's client. -/
def Offstage {τ : Type} (v : Worker → τ) : Prop :=
  ∀ s stopEvent pending expired stops moments registered outboundOwned client,
    v { s with stopEvent, pending, expired, stops, moments, registered, outboundOwned, client } =
      v s

namespace Offstage

variable {τ α : Type} {v : Worker → τ} (h : Offstage v)

include h

theorem stop (s : Worker) : v s.stop = v s :=
  h s true (s.pending || s.loop = .running) s.expired s.stops s.moments s.registered s.outboundOwned
    s.client

theorem tick : Frames v tick := by
  refine Frames.modify fun s => ?_
  cases s.stops.head with
  | false => exact h s _ _ _ s.stops.tail _ _ _ _
  | true => exact (h s.stop _ _ _ s.stops.tail _ _ _ _).trans (h.stop s)

theorem await (moment : Moment) {effect : Worker → Worker} (heffect : ∀ s, v (effect s) = v s) :
    Frames v (await moment effect) := by
  intro s
  have hstop : v (s.stopIf moment.stop) = v s := by
    cases moment.stop with
    | false => rfl
    | true => exact h.stop s
  have hcancelled : v ((s.stopIf moment.stop).cancelled moment effect) = v s := by
    unfold Worker.cancelled
    cases moment.late with
    | false => exact (h (s.stopIf moment.stop) _ false _ _ _ _ _ _).trans hstop
    | true =>
      refine (h (effect (s.stopIf moment.stop)) _ false _ _ _ _ _ _).trans ?_
      exact (heffect _).trans hstop
  rcases await_cases moment effect s with
    ⟨-, hrun⟩ | ⟨-, ⟨-, hrun⟩ | ⟨kind, message, -, hrun⟩ | ⟨-, hrun⟩⟩ <;> rw [hrun]
  · exact hcancelled
  · exact (heffect _).trans hstop
  · exact hstop
  · exact (h ((s.stopIf moment.stop).cancelled moment effect) _ _ true _ _ _ _ _).trans hcancelled

theorem takeMoment : Frames v takeMoment := fun s => h s _ _ _ _ s.moments.tail _ _ _

theorem runAsyncFn {task : Work α} (htask : Frames v task) : Frames v (runAsyncFn task) := by
  have hwait : Frames v (waitFor task) := by
    refine Frames.bind (Frames.modify fun s => h s _ _ false _ _ _ _ _) fun _ => ?_
    refine Frames.handle htask fun e => ?_
    exact Frames.bind (Frames.reads _) fun _ => Frames.ite (Frames.raise _) (Frames.raise _)
  have hposted : Frames v (modify fun s => { s with pending := false } : Work Unit) :=
    Frames.modify fun s => h s _ false _ _ _ _ _ _
  refine Frames.bind (Frames.reads _) fun status => ?_
  cases status with
  | none => exact Frames.raise _
  | closed => exact Frames.raise _
  | running =>
    refine Frames.bind h.tick fun _ => Frames.bind (Frames.reads _) fun _ => Frames.ite ?_ ?_
    · exact Frames.bind hposted fun _ => Frames.raise _
    · exact Frames.ensure hwait (Frames.bind h.tick fun _ => hposted)

end Offstage

theorem onKillswitch_run {α : Type} {m : Act Exc System α} {s : Worker} {r : Except Exc α}
    {k : System} (h : m s.ksManager = (r, k)) :
    onKillswitch m s = (r, { s with ksManager := k }) := by
  unfold onKillswitch zoom
  rw [h]

/-- A step of the kill-switch manager keeps what does not speak of it. -/
theorem keeps_onKillswitch {I : Worker → Prop} {α : Type} (m : Act Exc System α)
    (h : ∀ s ksManager, I s → I { s with ksManager }) : Keeps I (onKillswitch m) :=
  Keeps.of_run fun s hs => h s _ hs

end Bimarz.Gui
