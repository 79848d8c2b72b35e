import Bimarz.Gui.Chart
import Bimarz.Gui.Signals

/-!
# The main window (`gui/main_window.py`)

`MainWindow` lives on the GUI thread. Each connection has a worker thread of its own, whose signals
wait in one queue until the GUI thread delivers them, while the user clicks and other threads go on.
`Desktop.step` gives each of them a turn; a click on a disabled button, and whatever else cannot
happen, leaves everything as it is.

A worker's thread is known here by how far its signals have come; `admits_run` says that what
`ConnectionWorker.run` signals is a behaviour of such a thread.
-/

namespace Bimarz.Gui

open Effect
open LatencyChart (Chart Measure)
open ProfileTable (Table Sorting SortOrder)

/-! ## The kill-switch toggle (`gui/killswitch_toggle.py`) -/

structure KillSwitchToggle where
  active : Bool := false
  checkbox : Bool := false
  statusLabel : String := "inactive"

namespace KillSwitchToggle

def updateLabel (t : KillSwitchToggle) (active : Bool) : KillSwitchToggle :=
  { t with statusLabel := if active then "armed" else "inactive" }

/-- `_on_toggled`. -/
def onToggled (t : KillSwitchToggle) (active : Bool) : KillSwitchToggle :=
  if t.active = active then t else { t with active }.updateLabel active

/-- The user clicks the checkbox. -/
def click (t : KillSwitchToggle) : KillSwitchToggle :=
  { t with checkbox := !t.checkbox }.onToggled !t.checkbox

/-- `is_checked`. -/
def isChecked (t : KillSwitchToggle) : Bool := t.active

end KillSwitchToggle

/-! ## The window -/

/-- The thread of a `ConnectionWorker`, with the arguments that it was made with. -/
structure Thread where
  profile : ServerProfile
  allProfiles : Dict String ServerProfile
  enableKillswitch : Bool
  stage : Stage := .connecting
  running : Bool := true
  /-- `stop` has been called -/
  stopped : Bool := false

/-- A thread that has signalled nothing ends only after a `stop`. -/
def Thread.mayEnd (t : Thread) : Bool :=
  t.running && t.stage.final && (t.stage ≠ .connecting || t.stopped)

structure MessageBox where
  title : String
  text : String

structure MainWindow where
  profileTable : Table
  latencyChart : Chart
  ksToggle : KillSwitchToggle := {}
  /-- the thread of `_connection_worker` -/
  connectionWorker : Option ℕ := none
  currentProfile : Option ServerProfile := none
  closing : Bool := false
  connectEnabled : Bool := false
  disconnectEnabled : Bool := false
  statusLabel : String := "Ready"
  /-- the modal boxes that are open, the last one first -/
  boxes : List MessageBox := []

namespace MainWindow

/-- `_reset_connection_controls`. -/
def resetConnectionControls (w : MainWindow) : MainWindow :=
  { w with disconnectEnabled := false, connectEnabled := w.currentProfile.isSome && !w.closing }

/-- `_show_connection_error`. -/
def showConnectionError (w : MainWindow) (message : String) : MainWindow :=
  { w with
    statusLabel := s!"Error: {message}"
    boxes := ⟨"Connection Error", message⟩ :: w.boxes }

/-- `_refresh_profiles`. -/
def refreshProfiles (qt : Sorting) (w : MainWindow)
    (stored : Except String (List ServerProfile)) : MainWindow :=
  match stored with
  | .ok profiles =>
    { w with
      profileTable := w.profileTable.setProfiles qt profiles
      statusLabel := s!"Loaded {profiles.length} profile(s)" }
  | .error message => { w with statusLabel := s!"Error loading profiles: {message}" }

/-- `_on_latency_updated`. -/
def onLatencyUpdated (qt : Sorting) (w : MainWindow) (profileId : String) (latencyMs : ℚ)
    (reachable : Bool) : MainWindow :=
  { w with
    latencyChart :=
      if reachable = true ∧ 0 ≤ latencyMs then w.latencyChart.addPoint (.finite latencyMs)
      else w.latencyChart
    profileTable := w.profileTable.updateLatency qt profileId (some latencyMs) reachable }

/-- The slots of the worker's signals. -/
def onSignal (qt : Sorting) (w : MainWindow) : Signal → MainWindow
  | .connected remark => { w with statusLabel := s!"Connected: {remark}" }
  | .disconnected => { w.resetConnectionControls with statusLabel := "Disconnected" }
  | .connectionError message => w.resetConnectionControls.showConnectionError message
  | .latencyUpdated profileId latencyMs reachable =>
    w.onLatencyUpdated qt profileId latencyMs reachable
  | .failoverOccurred fromId toId => { w with statusLabel := s!"Failover: {fromId} -> {toId}" }
  | .killswitchTriggered reason =>
    let w := { w with statusLabel := s!"Kill-switch: {reason}" }.resetConnectionControls
    { w with boxes := ⟨"Kill-switch Triggered", reason⟩ :: w.boxes }

end MainWindow

/-! ## The window and its threads -/

structure Desktop where
  window : MainWindow
  /-- all threads that have been started, in this order -/
  threads : List Thread := []
  /-- the signals that wait for the GUI thread, each with its sender -/
  queue : List (ℕ × Signal) := []
  /-- the GUI thread is in the `wait` of `closeEvent` -/
  waiting : Bool := false

namespace Desktop

/-- `__init__`, with what the store has returned. -/
def init (qt : Sorting) (table : Table) (hasCharts : Bool)
    (stored : Except String (List ServerProfile)) : Desktop where
  window := { profileTable := table, latencyChart := { hasCharts } : MainWindow }.refreshProfiles qt
    stored

/-- The thread that the window holds. -/
def current (d : Desktop) : Option Thread := d.window.connectionWorker.bind fun i => d.threads[i]?

/-- `_worker_is_running`. -/
def workerIsRunning (d : Desktop) : Bool := d.current.any Thread.running

def onWindow (d : Desktop) (f : MainWindow → MainWindow) : Desktop := { d with window := f d.window }

def onThread (d : Desktop) (i : ℕ) (f : Thread → Thread) : Desktop :=
  { d with threads := d.threads.modify i f }

/-- `stop` of the thread that the window holds. -/
def stopWorker (d : Desktop) : Desktop :=
  match d.window.connectionWorker with
  | none => d
  | some i => d.onThread i fun t => { t with stopped := true }

/-- `_on_selection_changed`. -/
def onSelectionChanged (d : Desktop) : Desktop :=
  let profile := d.window.profileTable.selectedProfile
  d.onWindow fun w =>
    { w with currentProfile := profile, connectEnabled := profile.isSome && !d.workerIsRunning }

/-- The worker that `_on_connect` makes. -/
def newThread (d : Desktop) (profile : ServerProfile) (profiles : List ServerProfile) : Thread where
  profile
  allProfiles := profilesById profiles
  enableKillswitch := d.window.ksToggle.isChecked

/-- The worker is kept, and its thread is started. -/
def startWorker (d : Desktop) (t : Thread) : Desktop :=
  { d with
    threads := d.threads ++ [t]
    window := { d.window with connectionWorker := some d.threads.length } }

/-- `_on_connect`. -/
def onConnect (d : Desktop) (stored : Except String (List ServerProfile)) : Desktop :=
  if d.window.closing || d.workerIsRunning then d
  else
    match d.window.currentProfile with
    | none => d
    | some profile =>
      match stored with
      | .error message => d.onWindow fun w => w.showConnectionError message
      | .ok profiles =>
        (d.onWindow fun w =>
          { w with
            connectEnabled := false
            disconnectEnabled := true
            statusLabel := s!"Connecting to {profile.remark}..."
            latencyChart := w.latencyChart.clear }).startWorker (d.newThread profile profiles)

/-- `_on_disconnect`. -/
def onDisconnect (d : Desktop) : Desktop :=
  if d.workerIsRunning then
    d.stopWorker.onWindow fun w =>
      { w with disconnectEnabled := false, statusLabel := "Disconnecting..." }
  else d.onWindow MainWindow.resetConnectionControls

/-- `closeEvent`, up to its `wait`. -/
def closeEvent (d : Desktop) : Desktop :=
  let d := d.onWindow fun w => { w with closing := true }
  if d.workerIsRunning then { d.stopWorker with waiting := true } else d

/-! ## Turns -/

/-- What happens next. -/
inductive Event
  | select (row : ℕ)
  | sort (column : ProfileTable.Column) (order : SortOrder)
  | toggle
  /-- a click on Connect, and what the store returns to it -/
  | connect (stored : Except String (List ServerProfile))
  | disconnect
  /-- the message box in front is closed -/
  | dismiss
  | close
  /-- the `wait` of `closeEvent` returns -/
  | waited
  /-- the GUI thread takes a signal from the queue -/
  | deliver
  /-- a worker emits a signal -/
  | emit (i : ℕ) (signal : Signal)
  /-- a worker's thread ends -/
  | finish (i : ℕ)

/-- The user can reach the widgets of the window. -/
def reachable (d : Desktop) : Bool := !d.waiting && d.window.boxes.isEmpty

/-- The GUI thread delivers the first signal of the queue. -/
def deliver (qt : Sorting) (d : Desktop) : Desktop :=
  match d.queue with
  | [] => d
  | (_, signal) :: queue => { d with window := d.window.onSignal qt signal, queue }

/-- The signal is one that may come next from this thread. -/
def emit (d : Desktop) (i : ℕ) (signal : Signal) : Desktop :=
  match d.threads[i]? with
  | none => d
  | some t =>
    match t.stage.next signal with
    | none => d
    | some stage =>
      if t.running then
        { d.onThread i (fun t => { t with stage }) with queue := d.queue ++ [(i, signal)] }
      else d

def finish (d : Desktop) (i : ℕ) : Desktop :=
  d.onThread i fun t => if t.mayEnd then { t with running := false } else t

def step (qt : Sorting) (d : Desktop) : Event → Desktop
  | .select row =>
    if d.reachable ∧ (d.window.profileTable.select row).selected ≠ d.window.profileTable.selected then
      (d.onWindow fun w => { w with profileTable := w.profileTable.select row }).onSelectionChanged
    else d
  | .sort column order =>
    if d.reachable then
      d.onWindow fun w => { w with profileTable := w.profileTable.sortByColumn qt column order }
    else d
  | .toggle =>
    if d.reachable then d.onWindow fun w => { w with ksToggle := w.ksToggle.click } else d
  | .connect stored => if d.reachable && d.window.connectEnabled then d.onConnect stored else d
  | .disconnect => if d.reachable && d.window.disconnectEnabled then d.onDisconnect else d
  | .dismiss => if d.waiting then d else d.onWindow fun w => { w with boxes := w.boxes.tail }
  | .close => if d.reachable then d.closeEvent else d
  | .waited => { d with waiting := false }
  | .deliver => if d.waiting then d else d.deliver qt
  | .emit i signal => d.emit i signal
  | .finish i => d.finish i

end Desktop

/-! ## What a turn can do -/

/-- The signals that put the controls back. -/
def Signal.isEnding : Signal → Bool
  | .disconnected => true
  | signal => signal.isFailure

/-- The controls of the window, and what they depend on. -/
structure Controls where
  worker : Option ℕ
  selected : Bool
  closing : Bool
  connectEnabled : Bool
  disconnectEnabled : Bool
  threads : List Thread
  queue : List (ℕ × Signal)

namespace Desktop

def controls (d : Desktop) : Controls where
  worker := d.window.connectionWorker
  selected := d.window.currentProfile.isSome
  closing := d.window.closing
  connectEnabled := d.window.connectEnabled
  disconnectEnabled := d.window.disconnectEnabled
  threads := d.threads
  queue := d.queue

end Desktop

/-- The controls are put back. -/
def Controls.reset (c : Controls) : Controls :=
  { c with disconnectEnabled := false, connectEnabled := c.selected && !c.closing }

/-- A turn leaves the controls alone, or it is one of these. -/
inductive Turn (d : Desktop) : Desktop.Event → Controls → Prop
  | still (event : Desktop.Event) : Turn d event d.controls
  | select (row : ℕ) (selected : Bool) :
    Turn d (.select row) { d.controls with selected, connectEnabled := selected && !d.workerIsRunning }
  | start (stored : Except String (List ServerProfile)) (t : Thread)
    (hclosing : d.window.closing = false) (hrunning : d.workerIsRunning = false)
    (hselected : d.controls.selected = true)
    (hfresh : t.stage = .connecting ∧ t.running = true ∧ t.stopped = false) :
    Turn d (.connect stored) { d.controls with
      worker := some d.threads.length, connectEnabled := false, disconnectEnabled := true
      threads := d.threads ++ [t] }
  | stop (hrunning : d.workerIsRunning = true) :
    Turn d .disconnect { d.controls with disconnectEnabled := false, threads := d.stopWorker.threads }
  | reset (hrunning : d.workerIsRunning = false) : Turn d .disconnect d.controls.reset
  | close (threads : List Thread) (hthreads : threads = d.stopWorker.threads ∨
      threads = d.threads ∧ d.workerIsRunning = false) :
    Turn d .close { d.controls with closing := true, threads }
  | ending (i : ℕ) (signal : Signal) (queue : List (ℕ × Signal)) (hwaiting : d.waiting = false)
    (hqueue : d.queue = (i, signal) :: queue) (hending : signal.isEnding = true) :
    Turn d .deliver { d.controls.reset with queue }
  | other (i : ℕ) (signal : Signal) (queue : List (ℕ × Signal))
    (hqueue : d.queue = (i, signal) :: queue) (hending : signal.isEnding = false) :
    Turn d .deliver { d.controls with queue }
  | emit (i : ℕ) (signal : Signal) (t : Thread) (stage : Stage) (ht : d.threads[i]? = some t)
    (hrunning : t.running = true) (hnext : t.stage.next signal = some stage) :
    Turn d (.emit i signal) { d.controls with
      threads := d.threads.set i { t with stage }
      queue := d.queue ++ [(i, signal)] }
  | finish (i : ℕ) (t : Thread) (ht : d.threads[i]? = some t) (hend : t.mayEnd = true) :
    Turn d (.finish i) { d.controls with threads := d.threads.set i { t with running := false } }

theorem controls_onSignal (qt : Sorting) (d : Desktop) (signal : Signal) (queue : List (ℕ × Signal)) :
    ({ d with window := d.window.onSignal qt signal, queue } : Desktop).controls =
      if signal.isEnding = true then { d.controls.reset with queue } else { d.controls with queue } := by
  cases signal <;> rfl

theorem stopWorker_eq (d : Desktop) : d.stopWorker = { d with threads := d.stopWorker.threads } := by
  unfold Desktop.stopWorker
  cases d.window.connectionWorker <;> rfl

theorem stopWorker_closing (d : Desktop) :
    (d.onWindow fun w => { w with closing := true }).stopWorker =
      { d with window := { d.window with closing := true }, threads := d.stopWorker.threads } := by
  unfold Desktop.onWindow Desktop.stopWorker
  cases d.window.connectionWorker <;> rfl

theorem modify_eq_set {threads : List Thread} {i : ℕ} {t : Thread} (h : threads[i]? = some t)
    (f : Thread → Thread) : threads.modify i f = threads.set i (f t) := by
  rw [List.modify_eq_set_getElem?, h]
  rfl

/-- **A turn** does one of these things to the controls. -/
theorem turn_of_step (qt : Sorting) (d : Desktop) (event : Desktop.Event) :
    Turn d event (d.step qt event).controls := by
  cases event with
  | select row =>
    simp only [Desktop.step]
    split
    next => exact .select row _
    next => exact .still _
  | sort column order =>
    simp only [Desktop.step]
    split <;> exact .still _
  | toggle =>
    simp only [Desktop.step]
    split <;> exact .still _
  | connect stored =>
    simp only [Desktop.step, Desktop.onConnect]
    split
    next =>
      split
      next => exact .still _
      next hfree =>
        obtain ⟨hclosing, hrunning⟩ := Bool.or_eq_false_iff.mp (Bool.eq_false_of_not_eq_true hfree)
        split
        next => exact .still _
        next profile hprofile =>
          rcases stored with message | profiles
          · exact .still _
          · exact .start (.ok profiles) (d.newThread profile profiles) hclosing hrunning
              (congrArg Option.isSome hprofile) ⟨rfl, rfl, rfl⟩
    next => exact .still _
  | disconnect =>
    simp only [Desktop.step, Desktop.onDisconnect]
    split
    next =>
      split
      next hrunning =>
        rw [stopWorker_eq]
        exact .stop hrunning
      next hrunning => exact .reset (Bool.eq_false_of_not_eq_true hrunning)
    next => exact .still _
  | dismiss =>
    simp only [Desktop.step]
    split <;> exact .still _
  | close =>
    simp only [Desktop.step]
    split
    next =>
      unfold Desktop.closeEvent
      simp only
      split
      next hrunning =>
        rw [stopWorker_closing]
        exact .close _ (Or.inl rfl)
      next hrunning => exact .close _ (Or.inr ⟨rfl, Bool.eq_false_of_not_eq_true hrunning⟩)
    next => exact .still _
  | waited => exact .still _
  | deliver =>
    simp only [Desktop.step, Desktop.deliver]
    split
    next => exact .still _
    next hwaiting =>
      split
      next => exact .still _
      next i signal queue hqueue =>
        rw [controls_onSignal]
        split
        next hending =>
          exact .ending i signal queue (Bool.eq_false_of_not_eq_true hwaiting) hqueue hending
        next hending => exact .other i signal queue hqueue (Bool.eq_false_of_not_eq_true hending)
  | emit i signal =>
    simp only [Desktop.step, Desktop.emit]
    split
    next => exact .still _
    next t ht =>
      split
      next => exact .still _
      next stage hnext =>
        split
        next hrunning =>
          unfold Desktop.onThread
          rw [modify_eq_set ht]
          exact .emit i signal t stage ht hrunning hnext
        next => exact .still _
  | finish i =>
    simp only [Desktop.step, Desktop.finish, Desktop.onThread]
    cases ht : d.threads[i]? with
    | none =>
      rw [List.modify_eq_self (List.getElem?_eq_none_iff.mp ht)]
      exact .still _
    | some t =>
      rw [modify_eq_set ht]
      split
      next hend => exact .finish i t ht hend
      next =>
        obtain ⟨hi, rfl⟩ := List.getElem?_eq_some_iff.mp ht
        rw [List.set_getElem_self]
        exact .still _

/-! ## The threads -/

/-- Nothing has been signalled of the end. -/
def Stage.isOpen : Stage → Bool
  | .connecting => true
  | .connected => true
  | .failed _ => false
  | .closed => false

theorem isOpen_or_isEnding {stage stage' : Stage} {signal : Signal}
    (h : stage.next signal = some stage') : stage'.isOpen = !signal.isEnding := by
  rcases stage with _ | _ | ⟨_ | _⟩ | _ <;> cases signal <;> cases h <;> rfl

theorem isOpen_of_next {stage stage' : Stage} {signal : Signal}
    (h : stage.next signal = some stage') (hopen : stage'.isOpen = true) : stage.isOpen = true := by
  rcases stage with _ | _ | ⟨_ | _⟩ | _ <;> cases signal <;> cases h <;> first | rfl | cases hopen

section Lists

variable {threads : List Thread} {i j : ℕ} {t u : Thread}

theorem getElem?_set_cases (h : (threads.set i t)[j]? = some u) :
    j = i ∧ u = t ∨ j ≠ i ∧ threads[j]? = some u := by
  rw [List.getElem?_set] at h
  split at h
  next hij =>
    split at h
    next => exact Or.inl ⟨hij.symm, (Option.some.inj h).symm⟩
    next => cases h
  next hij => exact Or.inr ⟨Ne.symm hij, h⟩

theorem getElem?_concat_cases (h : (threads ++ [t])[j]? = some u) :
    j = threads.length ∧ u = t ∨ threads[j]? = some u := by
  rw [List.getElem?_append] at h
  split at h
  next => exact Or.inr h
  next hj =>
    rw [List.getElem?_singleton] at h
    split at h
    next => exact Or.inl ⟨by omega, (Option.some.inj h).symm⟩
    next => cases h

end Lists

/-- The window holds the last thread, and no other thread runs. -/
structure Crew (worker : Option ℕ) (threads : List Thread) : Prop where
  newest : ∀ i, worker = some i ↔ i + 1 = threads.length
  running : ∀ (i : ℕ) (t : Thread), threads[i]? = some t → t.running = true → worker = some i
  ended : ∀ (i : ℕ) (t : Thread), threads[i]? = some t → t.running = false →
    t.stage.final = true ∧ (t.stage = .connecting → t.stopped = true)

namespace Crew

variable {worker : Option ℕ} {threads : List Thread} {i : ℕ} {t t' : Thread}

theorem current (h : Crew worker threads) (hworker : worker = some i) :
    ∃ t, threads[i]? = some t := by
  have hlength := (h.newest i).mp hworker
  exact ⟨_, List.getElem?_eq_getElem (by omega)⟩

theorem set (h : Crew worker threads) (ht : threads[i]? = some t)
    (hrunning : t'.running = true → t.running = true)
    (hended : t'.running = false →
      t'.stage.final = true ∧ (t'.stage = .connecting → t'.stopped = true)) :
    Crew worker (threads.set i t') where
  newest j := by rw [List.length_set, h.newest j]
  running j u hu hrun := by
    rcases getElem?_set_cases hu with ⟨rfl, rfl⟩ | ⟨-, hu⟩
    · exact h.running j t ht (hrunning hrun)
    · exact h.running j u hu hrun
  ended j u hu hrun := by
    rcases getElem?_set_cases hu with ⟨rfl, rfl⟩ | ⟨-, hu⟩
    · exact hended hrun
    · exact h.ended j u hu hrun

/-- A thread is started when no other runs. -/
theorem append (h : Crew worker threads)
    (hidle : ∀ (i : ℕ) (t : Thread), threads[i]? = some t → t.running = false)
    (hrunning : t'.running = true) : Crew (some threads.length) (threads ++ [t']) where
  newest j := by
    rw [List.length_append, List.length_singleton, Option.some_inj]
    omega
  running j u hu hrun := by
    rcases getElem?_concat_cases hu with ⟨rfl, -⟩ | hu
    · rfl
    · exact absurd (hrun.symm.trans (hidle j u hu)) Bool.noConfusion
  ended j u hu hrun := by
    rcases getElem?_concat_cases hu with ⟨-, rfl⟩ | hu
    · exact absurd (hrunning.symm.trans hrun) Bool.noConfusion
    · exact h.ended j u hu hrun

end Crew

theorem workerIsRunning_iff {d : Desktop} :
    d.workerIsRunning = true ↔ ∃ (i : ℕ) (t : Thread),
      d.window.connectionWorker = some i ∧ d.threads[i]? = some t ∧ t.running = true := by
  unfold Desktop.workerIsRunning Desktop.current
  rw [Option.any_eq_true]
  constructor
  · rintro ⟨t, ht, hrunning⟩
    obtain ⟨i, hi, ht⟩ := Option.bind_eq_some_iff.mp ht
    exact ⟨i, t, hi, ht, hrunning⟩
  · rintro ⟨i, t, hi, ht, hrunning⟩
    exact ⟨t, Option.bind_eq_some_iff.mpr ⟨i, hi, ht⟩, hrunning⟩

theorem stopWorker_threads {d : Desktop} (h : Crew d.window.connectionWorker d.threads) :
    d.stopWorker.threads = d.threads ∧ d.window.connectionWorker = none ∨
      ∃ (i : ℕ) (t : Thread), d.window.connectionWorker = some i ∧ d.threads[i]? = some t ∧
        d.stopWorker.threads = d.threads.set i { t with stopped := true } := by
  unfold Desktop.stopWorker
  cases hworker : d.window.connectionWorker with
  | none => exact Or.inl ⟨rfl, rfl⟩
  | some i =>
    obtain ⟨t, ht⟩ := h.current hworker
    exact Or.inr ⟨i, t, rfl, ht, modify_eq_set ht _⟩

theorem Crew.idle {d : Desktop} (h : Crew d.window.connectionWorker d.threads)
    (hidle : d.workerIsRunning = false) {i : ℕ} {t : Thread} (ht : d.threads[i]? = some t) :
    t.running = false := by
  by_contra hrunning
  have hrun : t.running = true := by simpa using hrunning
  have hworker := workerIsRunning_iff.mpr ⟨i, t, h.running i t ht hrun, ht, hrun⟩
  exact absurd (hworker.symm.trans hidle) Bool.noConfusion

theorem Crew.turn {d : Desktop} {event : Desktop.Event} {c : Controls}
    (h : Crew d.window.connectionWorker d.threads) (hturn : Turn d event c) :
    Crew c.worker c.threads := by
  have hstop : Crew d.window.connectionWorker d.stopWorker.threads := by
    rcases stopWorker_threads h with ⟨hsame, -⟩ | ⟨i, t, -, ht, hset⟩
    · rw [hsame]
      exact h
    · rw [hset]
      exact h.set ht (fun hrun => hrun) fun hrun => ⟨(h.ended i t ht hrun).1, fun _ => rfl⟩
  cases hturn with
  | still => exact h
  | select row selected => exact h
  | start stored t hclosing hrunning hselected hfresh =>
    exact h.append (fun i t ht => h.idle hrunning ht) hfresh.2.1
  | stop hrunning => exact hstop
  | reset hrunning => exact h
  | close threads hthreads =>
    rcases hthreads with rfl | ⟨rfl, -⟩
    · exact hstop
    · exact h
  | ending i signal queue hwaiting hqueue hending => exact h
  | other i signal queue hqueue hending => exact h
  | emit i signal t stage ht hrunning hnext =>
    exact h.set ht (fun hrun => hrun) fun hrun => absurd (hrunning.symm.trans hrun) Bool.noConfusion
  | finish i t ht hend =>
    obtain ⟨⟨hrunning, hfinal⟩, hstopped⟩ : (t.running = true ∧ t.stage.final = true) ∧
        (t.stage ≠ .connecting ∨ t.stopped = true) := by simpa [Thread.mayEnd] using hend
    exact h.set ht (fun _ => hrunning) fun _ =>
      ⟨hfinal, fun hstage => hstopped.resolve_left fun hne => hne hstage⟩

/-! ## The controls -/

section Announcements

variable {threads : List Thread} {queue : List (ℕ × Signal)} {i j : ℕ} {t t' : Thread} {signal : Signal}

/-- A signal of the end of this thread waits for the GUI thread. -/
def Announced (queue : List (ℕ × Signal)) (i : ℕ) : Prop :=
  ∃ signal, (i, signal) ∈ queue ∧ signal.isEnding = true

theorem Announced.concat (h : Announced queue i) (entry : ℕ × Signal) :
    Announced (queue ++ [entry]) i :=
  h.imp fun _ hsignal => ⟨List.mem_append_left _ hsignal.1, hsignal.2⟩

theorem Announced.tail (h : Announced ((j, signal) :: queue) i) (hsignal : signal.isEnding = false) :
    Announced queue i := by
  obtain ⟨signal', hmem, hending⟩ := h
  rcases List.mem_cons.mp hmem with heq | hmem
  · obtain rfl : signal' = signal := congrArg Prod.snd heq
    exact absurd (hending.symm.trans hsignal) Bool.noConfusion
  · exact ⟨signal', hmem, hending⟩

/-- Who has announced its end is past it. -/
def Honest (queue : List (ℕ × Signal)) (threads : List Thread) : Prop :=
  ∀ i, Announced queue i → ∃ t : Thread, threads[i]? = some t ∧ t.stage.isOpen = false

theorem Honest.set (h : Honest queue threads) (ht : threads[j]? = some t)
    (hstage : t'.stage.isOpen = true → t.stage.isOpen = true) : Honest queue (threads.set j t') := by
  intro i hannounced
  obtain ⟨u, hu, hclosed⟩ := h i hannounced
  rcases eq_or_ne j i with rfl | hne
  · obtain rfl : t = u := Option.some.inj (ht.symm.trans hu)
    refine ⟨t', ?_, ?_⟩
    · rw [List.getElem?_set_self (List.getElem?_eq_some_iff.mp ht).1]
    · exact Bool.eq_false_of_not_eq_true fun hopen =>
        absurd ((hstage hopen).symm.trans hclosed) Bool.noConfusion
  · exact ⟨u, (List.getElem?_set_ne hne).trans hu, hclosed⟩

theorem Honest.append (h : Honest queue threads) (t : Thread) : Honest queue (threads ++ [t]) := by
  intro i hannounced
  obtain ⟨u, hu, hclosed⟩ := h i hannounced
  refine ⟨u, ?_, hclosed⟩
  rw [List.getElem?_append_left (List.getElem?_eq_some_iff.mp hu).1]
  exact hu

theorem Honest.tail (h : Honest ((j, signal) :: queue) threads) : Honest queue threads :=
  fun i hannounced => h i (hannounced.imp fun _ hsignal => ⟨List.mem_cons_of_mem _ hsignal.1, hsignal.2⟩)

theorem Honest.emit (h : Honest queue threads) (ht : threads[j]? = some t) {stage : Stage}
    (hnext : t.stage.next signal = some stage) :
    Honest (queue ++ [(j, signal)]) (threads.set j { t with stage }) := by
  have hset : Honest queue (threads.set j { t with stage }) := h.set ht (isOpen_of_next hnext)
  rintro i ⟨signal', hmem, hending⟩
  rcases List.mem_append.mp hmem with hmem | hmem
  · exact hset i ⟨signal', hmem, hending⟩
  · obtain ⟨rfl, rfl⟩ := Prod.mk.inj (List.mem_singleton.mp hmem)
    refine ⟨{ t with stage }, List.getElem?_set_self (List.getElem?_eq_some_iff.mp ht).1, ?_⟩
    exact (isOpen_or_isEnding hnext).trans (by rw [hending]; rfl)

end Announcements

/-- There is a worker to disconnect, which has not been told to stop unless the window closes. -/
def Controls.HasWorker (c : Controls) : Prop :=
  ∃ (i : ℕ) (t : Thread), c.worker = some i ∧ c.threads[i]? = some t ∧
    (t.stopped = true → c.closing = true) ∧ (t.stage.isOpen = true ∨ Announced c.queue i)

/-- What the controls promise in every state. -/
structure Controls.Sound (c : Controls) : Prop where
  crew : Crew c.worker c.threads
  honest : Honest c.queue c.threads
  connect : c.connectEnabled = true → c.selected = true
  disconnect : c.disconnectEnabled = true → c.HasWorker

theorem Controls.HasWorker.set {c : Controls} (h : c.HasWorker) {j : ℕ} {t t' : Thread}
    (ht : c.threads[j]? = some t) {closing : Bool} {queue : List (ℕ × Signal)}
    (hqueue : ∀ i, Announced c.queue i → Announced queue i)
    (hclosing : c.closing = true → closing = true)
    (hstopped : t'.stopped = true → t.stopped = true ∨ closing = true)
    (hstage : t.stage.isOpen = true → t'.stage.isOpen = true ∨ Announced queue j) :
    { c with closing, queue, threads := c.threads.set j t' }.HasWorker := by
  obtain ⟨i, u, hworker, hu, hold, hending⟩ := h
  rcases eq_or_ne j i with rfl | hne
  · obtain rfl : t = u := Option.some.inj (ht.symm.trans hu)
    refine ⟨j, t', hworker, List.getElem?_set_self (List.getElem?_eq_some_iff.mp ht).1, ?_, ?_⟩
    · exact fun h => (hstopped h).elim (fun h => hclosing (hold h)) fun h => h
    · exact hending.elim hstage fun h => Or.inr (hqueue j h)
  · refine ⟨i, u, hworker, (List.getElem?_set_ne hne).trans hu, fun h => hclosing (hold h), ?_⟩
    exact hending.imp_right (hqueue i)

theorem Controls.Sound.turn {d : Desktop} {event : Desktop.Event} {c : Controls}
    (h : d.controls.Sound) (hturn : Turn d event c) : c.Sound := by
  have hcrew := h.crew.turn hturn
  cases hturn with
  | still => exact h
  | select row selected =>
    refine ⟨hcrew, h.honest, fun henabled => ?_, h.disconnect⟩
    exact (Bool.and_eq_true_iff.mp henabled).1
  | start stored t hclosing hrunning hselected hfresh =>
    obtain ⟨hstage, -, hstopped⟩ := hfresh
    refine ⟨hcrew, h.honest.append t, nofun, fun _ => ⟨d.threads.length, t, rfl, ?_, ?_, Or.inl ?_⟩⟩
    · exact List.getElem?_concat_length
    · exact fun hstop => absurd (hstopped.symm.trans hstop) Bool.noConfusion
    · rw [hstage]
      rfl
  | stop hrunning =>
    refine ⟨hcrew, ?_, h.connect, nofun⟩
    rcases stopWorker_threads h.crew with ⟨hsame, -⟩ | ⟨i, t, -, ht, hset⟩
    · exact hsame ▸ h.honest
    · exact hset ▸ h.honest.set ht fun hopen => hopen
  | reset hrunning =>
    exact ⟨hcrew, h.honest, fun henabled => (Bool.and_eq_true_iff.mp henabled).1, nofun⟩
  | close threads hthreads =>
    have hsame : threads = d.threads → { d.controls with closing := true, threads }.Sound := by
      rintro rfl
      refine ⟨h.crew, h.honest, h.connect, fun henabled => ?_⟩
      obtain ⟨i, t, hworker, ht, -, hcase⟩ := h.disconnect henabled
      exact ⟨i, t, hworker, ht, fun _ => rfl, hcase⟩
    rcases hthreads with rfl | ⟨hthreads, -⟩
    · rcases stopWorker_threads h.crew with ⟨hthreads, -⟩ | ⟨i, t, -, ht, hset⟩
      · exact hsame hthreads
      · rw [hset] at hcrew ⊢
        refine ⟨hcrew, h.honest.set ht fun hopen => hopen, h.connect, fun henabled => ?_⟩
        exact (h.disconnect henabled).set ht (fun _ hj => hj) (fun _ => rfl) (fun _ => Or.inr rfl) Or.inl
    · exact hsame hthreads
  | ending i signal queue hwaiting hqueue hending =>
    have hhonest : Honest d.queue d.threads := h.honest
    rw [hqueue] at hhonest
    exact ⟨hcrew, hhonest.tail, fun henabled => (Bool.and_eq_true_iff.mp henabled).1, nofun⟩
  | other i signal queue hqueue hending =>
    have hhonest : Honest d.queue d.threads := h.honest
    rw [hqueue] at hhonest
    refine ⟨hcrew, hhonest.tail, h.connect, fun henabled => ?_⟩
    obtain ⟨j, t, hworker, ht, hstopped, hcase⟩ := h.disconnect henabled
    refine ⟨j, t, hworker, ht, hstopped, hcase.imp_right fun hannounced => ?_⟩
    have hcons : Announced d.queue j := hannounced
    rw [hqueue] at hcons
    exact hcons.tail hending
  | emit i signal t stage ht hrunning hnext =>
    refine ⟨hcrew, h.honest.emit ht hnext, h.connect, fun henabled => ?_⟩
    refine (h.disconnect henabled).set ht (fun j hj => hj.concat _) (fun h => h) Or.inl fun _ => ?_
    cases hending : signal.isEnding with
    | true => exact Or.inr ⟨signal, List.mem_append_right _ List.mem_cons_self, hending⟩
    | false => exact Or.inl ((isOpen_or_isEnding hnext).trans (by rw [hending]; rfl))
  | finish i t ht hend =>
    refine ⟨hcrew, h.honest.set ht fun hopen => hopen, h.connect, fun henabled => ?_⟩
    exact (h.disconnect henabled).set ht (fun _ hj => hj) (fun h => h) Or.inl Or.inl

/-- A window that closes starts nothing. -/
theorem closing_turn {d : Desktop} {event : Desktop.Event} {c : Controls} (hturn : Turn d event c)
    (hclosing : d.window.closing = true) :
    c.closing = true ∧ c.threads.length = d.threads.length := by
  have hstop : d.stopWorker.threads.length = d.threads.length := by
    unfold Desktop.stopWorker Desktop.onThread
    cases d.window.connectionWorker with
    | none => rfl
    | some i => exact List.length_modify ..
  cases hturn with
  | still => exact ⟨hclosing, rfl⟩
  | select row selected => exact ⟨hclosing, rfl⟩
  | start stored t hopen => exact absurd (hclosing.symm.trans hopen) Bool.noConfusion
  | stop hrunning => exact ⟨hclosing, hstop⟩
  | reset hrunning => exact ⟨hclosing, rfl⟩
  | close threads hthreads =>
    rcases hthreads with rfl | ⟨rfl, -⟩
    · exact ⟨rfl, hstop⟩
    · exact ⟨rfl, rfl⟩
  | ending i signal queue hwaiting hqueue hending => exact ⟨hclosing, rfl⟩
  | other i signal queue hqueue hending => exact ⟨hclosing, rfl⟩
  | emit i signal t stage ht hrunning hnext => exact ⟨hclosing, List.length_set⟩
  | finish i t ht hend => exact ⟨hclosing, List.length_set⟩

/-! ## Disconnecting -/

/-- The worker is to go on: nobody has stopped it, and it has not announced its end. -/
def Thread.Live (t : Thread) : Prop :=
  t.running = true ∧ t.stopped = false ∧ t.stage.isOpen = true

/-- A worker that is to go on can be disconnected. -/
def Controls.Stoppable (c : Controls) : Prop :=
  ∀ (i : ℕ) (t : Thread), c.threads[i]? = some t → t.Live → c.disconnectEnabled = true

/-- The GUI thread takes the announcement of one worker while another one is to go on. -/
def Desktop.Ousts (d : Desktop) (event : Desktop.Event) : Prop :=
  event = .deliver ∧ d.waiting = false ∧
    ∃ i signal queue, d.queue = (i, signal) :: queue ∧ signal.isEnding = true ∧
      ∃ (j : ℕ) (t : Thread), j ≠ i ∧ d.threads[j]? = some t ∧ t.Live

theorem controls_deliver (qt : Sorting) {d : Desktop} (hwaiting : d.waiting = false) {i : ℕ}
    {signal : Signal} {queue : List (ℕ × Signal)} (hqueue : d.queue = (i, signal) :: queue)
    (hending : signal.isEnding = true) :
    (d.step qt .deliver).controls = { d.controls.reset with queue } := by
  have hstep : d.step qt .deliver = { d with window := d.window.onSignal qt signal, queue } := by
    simp only [Desktop.step, Desktop.deliver, hwaiting, Bool.false_eq_true, if_false]
    rw [hqueue]
  rw [hstep, controls_onSignal, if_pos hending]

theorem not_live_stopWorker {d : Desktop} (h : Crew d.window.connectionWorker d.threads) {j : ℕ}
    {t : Thread} (ht : d.stopWorker.threads[j]? = some t) : ¬t.Live := by
  rintro ⟨hrunning, hstopped, -⟩
  rcases stopWorker_threads h with ⟨hsame, hnone⟩ | ⟨i, u, hworker, hu, hset⟩
  · rw [hsame] at ht
    exact Option.some_ne_none j ((h.running j t ht hrunning).symm.trans hnone)
  · rw [hset] at ht
    rcases getElem?_set_cases ht with ⟨rfl, rfl⟩ | ⟨hne, ht⟩
    · exact Bool.noConfusion hstopped
    · exact hne (Option.some.inj ((h.running j t ht hrunning).symm.trans hworker))

theorem Controls.Stoppable.turn {d : Desktop} (hsound : d.controls.Sound)
    (h : d.controls.Stoppable) {event : Desktop.Event} {c : Controls} (hturn : Turn d event c)
    (hok : ¬d.Ousts event) : c.Stoppable := by
  have hidle (hrunning : d.workerIsRunning = false) {j : ℕ} {t : Thread}
      (ht : d.threads[j]? = some t) : ¬t.Live := fun hlive =>
    absurd (hlive.1.symm.trans (hsound.crew.idle hrunning ht)) Bool.noConfusion
  cases hturn with
  | still => exact h
  | select row selected => exact h
  | start stored t hclosing hrunning hselected hfresh => exact fun _ _ _ _ => rfl
  | stop hrunning => exact fun j t ht hlive => absurd hlive (not_live_stopWorker hsound.crew ht)
  | reset hrunning => exact fun j t ht hlive => absurd hlive (hidle hrunning ht)
  | close threads hthreads =>
    intro j t ht hlive
    rcases hthreads with rfl | ⟨rfl, hrunning⟩
    · exact absurd hlive (not_live_stopWorker hsound.crew ht)
    · exact absurd hlive (hidle hrunning ht)
  | ending i signal queue hwaiting hqueue hending =>
    intro j t ht hlive
    have hannounced : Announced d.queue i := by
      rw [hqueue]
      exact ⟨signal, List.mem_cons_self, hending⟩
    refine absurd ⟨rfl, hwaiting, i, signal, queue, hqueue, hending, j, t, ?_, ht, hlive⟩ hok
    rintro rfl
    obtain ⟨u, hu, hclosed⟩ := hsound.honest j hannounced
    obtain rfl : t = u := Option.some.inj (ht.symm.trans hu)
    exact absurd (hlive.2.2.symm.trans hclosed) Bool.noConfusion
  | other i signal queue hqueue hending => exact h
  | emit i signal t stage ht hrunning hnext =>
    intro j u hu hlive
    rcases getElem?_set_cases hu with ⟨rfl, rfl⟩ | ⟨-, hu⟩
    · exact h j t ht ⟨hrunning, hlive.2.1, isOpen_of_next hnext hlive.2.2⟩
    · exact h j u hu hlive
  | finish i t ht hend =>
    intro j u hu hlive
    rcases getElem?_set_cases hu with ⟨rfl, rfl⟩ | ⟨-, hu⟩
    · exact Bool.noConfusion hlive.1
    · exact h j u hu hlive

theorem stoppable_step_iff (qt : Sorting) {d : Desktop} (event : Desktop.Event)
    (hsound : d.controls.Sound) (h : d.controls.Stoppable) :
    (d.step qt event).controls.Stoppable ↔ ¬d.Ousts event := by
  constructor
  · rintro hafter ⟨rfl, hwaiting, i, signal, queue, hqueue, hending, j, t, -, ht, hlive⟩
    rw [controls_deliver qt hwaiting hqueue hending] at hafter
    exact Bool.noConfusion (hafter j t ht hlive)
  · exact h.turn hsound (turn_of_step qt d event)

/-! ## Connecting again -/

/-- An announcement of the end is still to come. -/
def Stage.speaks : Stage → Bool
  | .failed wasConnected => wasConnected
  | .closed => false
  | _ => true

theorem speaks_or_isEnding {stage stage' : Stage} {signal : Signal}
    (h : stage.next signal = some stage') : stage'.speaks = true ∨ signal.isEnding = true := by
  rcases stage with _ | _ | ⟨_ | _⟩ | _ <;> cases signal <;> cases h <;>
    first | exact Or.inl rfl | exact Or.inr rfl

/-- The controls will be put back when the worker of the window announces its end. -/
def Controls.Due (c : Controls) : Prop :=
  ∃ (i : ℕ) (t : Thread), c.worker = some i ∧ c.threads[i]? = some t ∧
    (t.stage.speaks = true ∨ Announced c.queue i)

/-- Nobody selects a profile while a worker that has said its last word still runs, and no worker
ends without a word. -/
def Desktop.Undisturbed (d : Desktop) : Desktop.Event → Prop
  | .select _ => d.workerIsRunning = true → d.controls.Due
  | .finish i => ∀ t : Thread, d.threads[i]? = some t → t.stage ≠ .connecting
  | _ => True

/-- What holds meanwhile: Connect is as it should be, or will be. -/
structure Controls.Calm (c : Controls) : Prop where
  sound : c.Sound
  spoken : ∀ (i : ℕ) (t : Thread), c.threads[i]? = some t → t.running = false → t.stage ≠ .connecting
  connect : c.closing = false → c.connectEnabled = c.selected ∨ c.Due

theorem Controls.Due.set {c : Controls} (h : c.Due) {j : ℕ} {t t' : Thread}
    (ht : c.threads[j]? = some t) {queue : List (ℕ × Signal)}
    (hqueue : ∀ i, Announced c.queue i → Announced queue i)
    (hstage : t.stage.speaks = true → t'.stage.speaks = true ∨ Announced queue j) :
    { c with queue, threads := c.threads.set j t' }.Due := by
  obtain ⟨i, u, hworker, hu, hcase⟩ := h
  rcases eq_or_ne j i with rfl | hne
  · obtain rfl : t = u := Option.some.inj (ht.symm.trans hu)
    refine ⟨j, t', hworker, List.getElem?_set_self (List.getElem?_eq_some_iff.mp ht).1, ?_⟩
    exact hcase.elim hstage fun h => Or.inr (hqueue j h)
  · exact ⟨i, u, hworker, (List.getElem?_set_ne hne).trans hu, hcase.imp_right (hqueue i)⟩

theorem spoken_set {threads : List Thread} {i : ℕ} {t : Thread}
    (h : ∀ (j : ℕ) (u : Thread), threads[j]? = some u → u.running = false → u.stage ≠ .connecting)
    (ht : t.running = false → t.stage ≠ .connecting) (j : ℕ) (u : Thread)
    (hu : (threads.set i t)[j]? = some u) (hrunning : u.running = false) : u.stage ≠ .connecting := by
  rcases getElem?_set_cases hu with ⟨-, rfl⟩ | ⟨-, hu⟩
  · exact ht hrunning
  · exact h j u hu hrunning

theorem reset_connectEnabled {c : Controls} (h : c.closing = false) :
    c.reset.connectEnabled = c.selected := by
  unfold Controls.reset
  rw [h]
  exact Bool.and_true c.selected

theorem Controls.Calm.turn {d : Desktop} (h : d.controls.Calm) {event : Desktop.Event}
    {c : Controls} (hturn : Turn d event c) (hok : d.Undisturbed event) : c.Calm := by
  have hsound := h.sound.turn hturn
  have hstop : (∀ (j : ℕ) (u : Thread), d.stopWorker.threads[j]? = some u → u.running = false →
        u.stage ≠ .connecting) ∧
      (d.controls.Due → { d.controls with threads := d.stopWorker.threads }.Due) := by
    rcases stopWorker_threads h.sound.crew with ⟨hsame, -⟩ | ⟨i, t, -, ht, hset⟩
    · rw [hsame]
      exact ⟨h.spoken, fun hdue => hdue⟩
    · rw [hset]
      exact ⟨spoken_set h.spoken (h.spoken i t ht), fun hdue => hdue.set ht (fun _ hj => hj) Or.inl⟩
  cases hturn with
  | still => exact h
  | select row selected =>
    refine ⟨hsound, h.spoken, fun hclosing => ?_⟩
    cases hrunning : d.workerIsRunning with
    | false => exact Or.inl (Bool.and_true selected)
    | true => exact Or.inr (hok hrunning)
  | start stored t hclosing hrunning hselected hfresh =>
    refine ⟨hsound, fun j u hu hended => ?_, fun _ => Or.inr ⟨d.threads.length, t, rfl, ?_, Or.inl ?_⟩⟩
    · rcases getElem?_concat_cases hu with ⟨-, rfl⟩ | hu
      · exact absurd (hfresh.2.1.symm.trans hended) Bool.noConfusion
      · exact h.spoken j u hu hended
    · exact List.getElem?_concat_length
    · rw [hfresh.1]
      rfl
  | stop hrunning =>
    exact ⟨hsound, hstop.1, fun hclosing => (h.connect hclosing).imp_right hstop.2⟩
  | reset hrunning =>
    exact ⟨hsound, h.spoken, fun hclosing => Or.inl (reset_connectEnabled hclosing)⟩
  | close threads hthreads =>
    refine ⟨hsound, ?_, nofun⟩
    rcases hthreads with rfl | ⟨rfl, -⟩
    · exact hstop.1
    · exact h.spoken
  | ending i signal queue hwaiting hqueue hending =>
    exact ⟨hsound, h.spoken, fun hclosing => Or.inl (reset_connectEnabled hclosing)⟩
  | other i signal queue hqueue hending =>
    refine ⟨hsound, h.spoken, fun hclosing => (h.connect hclosing).imp_right ?_⟩
    rintro ⟨j, t, hworker, ht, hcase⟩
    refine ⟨j, t, hworker, ht, hcase.imp_right fun hannounced => ?_⟩
    have hcons : Announced d.queue j := hannounced
    rw [hqueue] at hcons
    exact hcons.tail hending
  | emit i signal t stage ht hrunning hnext =>
    refine ⟨hsound, spoken_set h.spoken fun hended => ?_, fun hclosing => ?_⟩
    · exact absurd (hrunning.symm.trans hended) Bool.noConfusion
    refine (h.connect hclosing).imp_right fun hdue => hdue.set ht (fun j hj => hj.concat _) fun _ => ?_
    refine (speaks_or_isEnding hnext).imp_right fun hending => ?_
    exact ⟨signal, List.mem_append_right _ List.mem_cons_self, hending⟩
  | finish i t ht hend =>
    refine ⟨hsound, spoken_set h.spoken fun _ => hok t ht, fun hclosing => ?_⟩
    exact (h.connect hclosing).imp_right fun hdue => hdue.set ht (fun _ hj => hj) Or.inl

theorem connecting_of_final {stage : Stage} (hfinal : stage.final = true)
    (hopen : stage.isOpen = true) : stage = .connecting := by
  cases stage with
  | connecting => rfl
  | connected => cases hfinal
  | failed wasConnected => cases hopen
  | closed => cases hopen

theorem final_speaks {stage : Stage} (hfinal : stage.final = true) (hstage : stage ≠ .connecting) :
    stage.speaks = false := by
  cases stage with
  | connecting => exact absurd rfl hstage
  | connected => cases hfinal
  | failed wasConnected => simpa [Stage.final, Stage.speaks] using hfinal
  | closed => rfl

/-- Nothing is underway: no thread runs, and no signal waits. -/
def Desktop.Idle (d : Desktop) : Prop :=
  (∀ (i : ℕ) (t : Thread), d.threads[i]? = some t → t.running = false) ∧ d.queue = []

theorem not_due_of_idle {d : Desktop} (h : d.controls.Calm) (hidle : d.Idle) : ¬d.controls.Due := by
  rintro ⟨i, t, -, ht, hspeaks | ⟨signal, hmem, -⟩⟩
  · have hended := hidle.1 i t ht
    have hquiet := final_speaks (h.sound.crew.ended i t ht hended).1 (h.spoken i t ht hended)
    exact absurd (hspeaks.symm.trans hquiet) Bool.noConfusion
  · have hempty : d.controls.queue = [] := hidle.2
    rw [hempty] at hmem
    cases hmem

/-! ## What a worker's thread signals -/

theorem emit_eq {d : Desktop} {i : ℕ} {t : Thread} {signal : Signal} {stage : Stage}
    (ht : d.threads[i]? = some t) (hrunning : t.running = true)
    (hnext : t.stage.next signal = some stage) :
    d.emit i signal = { d with
      threads := d.threads.set i { t with stage }
      queue := d.queue ++ [(i, signal)] } := by
  unfold Desktop.emit Desktop.onThread
  rw [ht]
  simp only [hnext]
  rw [if_pos hrunning, modify_eq_set ht]

/-- Signals that come in order are all emitted. -/
theorem runAll_emit (qt : Sorting) {signals : List Signal} {d : Desktop} {i : ℕ} {t : Thread}
    {stage : Stage} (ht : d.threads[i]? = some t) (hrunning : t.running = true)
    (hafter : t.stage.after signals = some stage) :
    runAll (Desktop.step qt) d (signals.map (Desktop.Event.emit i)) = { d with
      threads := d.threads.set i { t with stage }
      queue := d.queue ++ signals.map (Prod.mk i) } := by
  induction signals generalizing d t with
  | nil =>
    obtain rfl : t.stage = stage := Option.some.inj hafter
    obtain ⟨hi, rfl⟩ := List.getElem?_eq_some_iff.mp ht
    rw [List.map_nil, List.map_nil, runAll_nil, List.append_nil]
    exact congrArg (fun threads => { d with threads }) (List.set_getElem_self hi).symm
  | cons signal signals ih =>
    obtain ⟨next, hnext, hrest⟩ : ∃ next, t.stage.next signal = some next ∧
        next.after signals = some stage := Option.bind_eq_some_iff.mp hafter
    have hi := (List.getElem?_eq_some_iff.mp ht).1
    have hstep : d.step qt (.emit i signal) = _ := emit_eq ht hrunning hnext
    rw [List.map_cons, runAll_cons, hstep,
      ih (t := { t with stage := next }) (List.getElem?_set_self hi) hrunning hrest]
    simp only [List.set_set, List.map_cons, List.append_assoc, List.cons_append, List.nil_append]

section Runs

variable (qt : Sorting) (table : Table) (hasCharts : Bool)
  (stored : Except String (List ServerProfile)) (events : List Desktop.Event)

/-- The desktop after a run of events. -/
def Desktop.after : Desktop := runAll (Desktop.step qt) (.init qt table hasCharts stored) events

theorem sound_init : (Desktop.init qt table hasCharts stored).controls.Sound := by
  have hcontrols : (Desktop.init qt table hasCharts stored).controls =
      ⟨none, false, false, false, false, [], []⟩ := by
    unfold Desktop.init MainWindow.refreshProfiles
    cases stored <;> rfl
  rw [hcontrols]
  refine ⟨⟨fun i => ?_, fun i t ht => ?_, fun i t ht => ?_⟩, ?_, nofun, nofun⟩
  · exact iff_of_false nofun nofun
  · cases ht
  · cases ht
  · rintro i ⟨signal, hmem, -⟩
    cases hmem

theorem sound_after : (Desktop.after qt table hasCharts stored events).controls.Sound :=
  runAll_invariant (I := fun d : Desktop => d.controls.Sound)
    (fun d event h => h.turn (turn_of_step qt d event)) (sound_init qt table hasCharts stored) events

/-- **One worker at a time.** In every state the window holds the thread that runs, if one does,
and once it closes it starts none. -/
theorem one_worker :
    (∀ (i : ℕ) (t : Thread), (Desktop.after qt table hasCharts stored events).threads[i]? = some t →
      t.running = true →
        (Desktop.after qt table hasCharts stored events).window.connectionWorker = some i) ∧
      ∀ later, (Desktop.after qt table hasCharts stored events).window.closing = true →
        (Desktop.after qt table hasCharts stored (events ++ later)).threads.length =
          (Desktop.after qt table hasCharts stored events).threads.length := by
  refine ⟨(sound_after qt table hasCharts stored events).crew.running, fun later hclosing => ?_⟩
  have hlater : runAll (Desktop.step qt) (.init qt table hasCharts stored) (events ++ later) =
      runAll (Desktop.step qt) (Desktop.after qt table hasCharts stored events) later :=
    runAll_append _ _ _ _
  unfold Desktop.after at hclosing ⊢
  rw [hlater]
  refine (runAll_invariant (I := fun d : Desktop => d.window.closing = true ∧ d.threads.length =
    (Desktop.after qt table hasCharts stored events).threads.length) ?_ ⟨hclosing, rfl⟩ later).2
  intro d event h
  obtain ⟨hstays, hlength⟩ := closing_turn (turn_of_step qt d event) h.1
  exact ⟨hstays, hlength.trans h.2⟩

/-- **Disconnecting.** Every worker that is to go on can be disconnected, in every state of a run,
exactly if the GUI thread never takes the announcement of an earlier worker meanwhile. -/
theorem stoppable_iff :
    Always (Desktop.step qt) (fun d => d.controls.Stoppable) (.init qt table hasCharts stored) events ↔
      Each (Desktop.step qt) (fun d event => ¬d.Ousts event) (.init qt table hasCharts stored)
        events := by
  refine always_iff_each (J := fun d : Desktop => d.controls.Sound)
    (fun d event h => h.turn (turn_of_step qt d event)) ?_ (sound_init qt table hasCharts stored) ?_
    events
  · exact fun d event hsound h => stoppable_step_iff qt event hsound h
  · intro i t ht
    cases ht

/-- Connect is enabled only for a profile, and Disconnect only for a worker that is still there or
whose end has not been shown yet; it has not been told to stop, unless the window closes. -/
structure Desktop.ButtonsMean (d : Desktop) : Prop where
  connect : d.window.connectEnabled = true → d.window.currentProfile.isSome = true
  disconnect : d.window.disconnectEnabled = true → ∃ (i : ℕ) (t : Thread),
    d.window.connectionWorker = some i ∧ d.threads[i]? = some t ∧
      (d.window.closing = true ∨ t.stopped = false ∧ (t.running = true ∨ Announced d.queue i))

end Runs

end Bimarz.Gui
