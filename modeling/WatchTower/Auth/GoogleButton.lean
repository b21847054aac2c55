import Mathlib.Data.List.Basic
import WatchTower.Transition.Run

set_option relaxedAutoImplicit false
set_option autoImplicit false

/-!
# The Google button

`loadGoogleScript` of `GoogleSignInButton.jsx` adds the script of Google to the document. Its
promise is shared by the buttons of all pages. It is forgotten when the script fails to load, "so a
later mount can retry"; but the element that has failed stays in the document, and the next call
waits for its events, which are over.

## Main definitions

* `WatchTower.GsiLoader`, `WatchTower.loadGoogleScript` — the document, and the loader.
* `WatchTower.GsiButton`, `WatchTower.GsiPage`, `WatchTower.GsiStep` — buttons come and go, the
  script loads or fails, and what the promise has come to reaches the buttons.
* `WatchTower.GsiPhase` — the five states of the loader.
* `WatchTower.ButtonAnswered` — what a button shows in the end.

## Main results

* `WatchTower.GsiPhase.call` — a call in each of the five states.
* `WatchTower.GsiKept.step` — a step keeps the loader in one of them, and the buttons to what their
  promises have come to.
* `WatchTower.buttonAnswered_of_run` — in every run, a button that was there before the script
  failed shows in the end what has become of it, and one that comes later never shows anything.
-/

namespace WatchTower

open Transition

/-! ## The loader -/

/-- The element with the id `SCRIPT_ID`. -/
inductive ScriptState
  | loading
  | loaded
  | failed
  deriving DecidableEq

/-- What a promise has come to. -/
inductive GsiOutcome
  /-- It is pending. -/
  | pending
  /-- It is resolved to `window.google`, with `accounts.id` or without. -/
  | resolved (google : Bool)
  /-- It is rejected. -/
  | rejected
  deriving DecidableEq

/-- The document, and the module of the button. -/
structure GsiLoader where
  /-- `window.google?.accounts?.id`. -/
  google : Bool
  /-- The element, if there is one. -/
  script : Option ScriptState
  /-- How many have been appended. -/
  appended : ℕ
  /-- The promises that have been made. -/
  promises : List GsiOutcome
  /-- Those that the next event of the element settles. -/
  listeners : List ℕ
  /-- `gsiPromise`. -/
  gsiPromise : Option ℕ
  deriving DecidableEq

/-- `loadGoogleScript`: the promise, and what is left. -/
def loadGoogleScript (s : GsiLoader) : ℕ × GsiLoader :=
  match s.gsiPromise with
  | some promise => (promise, s)
  | none =>
    let promise := s.promises.length
    if s.google then
      (promise, { s with
        promises := s.promises ++ [.resolved true]
        gsiPromise := some promise })
    else
      let s' : GsiLoader := { s with
        promises := s.promises ++ [.pending]
        listeners := s.listeners ++ [promise]
        gsiPromise := some promise }
      match s.script with
      | some _ => (promise, s')
      | none => (promise, { s' with script := some .loading, appended := s.appended + 1 })

/-- Promises are settled. -/
def settleAll (outcome : GsiOutcome) (listeners : List ℕ) (promises : List GsiOutcome) :
    List GsiOutcome :=
  listeners.foldl (fun promises i => promises.set i outcome) promises

/-- The script has loaded. -/
def GsiLoader.load (s : GsiLoader) (google : Bool) : GsiLoader :=
  { s with
    google := google
    script := some .loaded
    promises := settleAll (.resolved google) s.listeners s.promises
    listeners := [] }

/-- The script has failed to load: the promise is forgotten. -/
def GsiLoader.fail (s : GsiLoader) : GsiLoader :=
  { s with
    script := some .failed
    promises := settleAll .rejected s.listeners s.promises
    listeners := []
    gsiPromise := none }

/-- A fresh document. -/
def GsiLoader.fresh : GsiLoader := ⟨false, none, 0, [], [], none⟩

/-! ## The buttons -/

/-- A button that has been mounted. -/
structure GsiButton where
  /-- The promise that it waits for. -/
  promise : ℕ
  /-- `cancelled`: it has been unmounted. -/
  cancelled : Bool
  /-- Whether the promise has reached it. -/
  reacted : Bool
  /-- `ready`. -/
  ready : Bool
  /-- Whether it says that the script could not be loaded. -/
  error : Bool
  deriving DecidableEq

/-- A button that has just been mounted. -/
def GsiButton.mounted (promise : ℕ) : GsiButton := ⟨promise, false, false, false, false⟩

/-- The callbacks of `then` and `catch`. -/
def GsiButton.react (b : GsiButton) (outcome : GsiOutcome) : GsiButton :=
  { b with
    reacted := true
    ready := b.ready || (!b.cancelled && outcome = .resolved true)
    error := b.error || (!b.cancelled && outcome = .rejected) }

/-- The document with its buttons, in the order in which they have been mounted. -/
structure GsiPage where
  /-- The loader. -/
  loader : GsiLoader
  /-- The buttons. -/
  buttons : List GsiButton

/-- What happens. -/
inductive GsiEvent
  /-- A button is mounted. -/
  | mount
  /-- A button is unmounted. -/
  | unmount (i : ℕ)
  /-- The script loads. -/
  | load (google : Bool)
  /-- It fails to. -/
  | fail
  /-- The promise reaches a button. -/
  | react (i : ℕ)
  deriving DecidableEq

/-- The steps. An element has one event at most. -/
inductive GsiStep : GsiPage → GsiEvent → GsiPage → Prop
  | mount {s : GsiPage} :
      GsiStep s .mount ⟨(loadGoogleScript s.loader).2,
        s.buttons ++ [.mounted (loadGoogleScript s.loader).1]⟩
  | unmount {s : GsiPage} {i : ℕ} {b : GsiButton} :
      s.buttons[i]? = some b →
      GsiStep s (.unmount i) { s with buttons := s.buttons.set i { b with cancelled := true } }
  | load {s : GsiPage} {google : Bool} :
      s.loader.script = some .loading →
      GsiStep s (.load google) { s with loader := s.loader.load google }
  | fail {s : GsiPage} :
      s.loader.script = some .loading →
      GsiStep s .fail { s with loader := s.loader.fail }
  | react {s : GsiPage} {i : ℕ} {b : GsiButton} {outcome : GsiOutcome} :
      s.buttons[i]? = some b →
      b.reacted = false →
      s.loader.promises[b.promise]? = some outcome →
      outcome ≠ .pending →
      GsiStep s (.react i) { s with buttons := s.buttons.set i (b.react outcome) }

/-- Whether a button is mounted. -/
def GsiEvent.isMount (e : GsiEvent) : Bool := e = .mount

/-- Nothing happens any more but that buttons come and go. -/
def GsiPage.Quiet (s : GsiPage) : Prop :=
  ∀ e t, GsiStep s e t → e = .mount ∨ ∃ i, e = .unmount i

/-- The button that was mounted after `pre` cannot be used, and says nothing. -/
def ButtonIdle (pre : List GsiEvent) (s : GsiPage) : Prop :=
  ∃ b, s.buttons[pre.countP (·.isMount)]? = some b ∧ b.ready = false ∧ b.error = false

/-- What the button shows in the end that was mounted between `pre` and `post`: it can be used
exactly if the script has loaded, and says that it cannot exactly if the script has failed, but not
before the button was there. -/
def ButtonAnswered (pre post : List GsiEvent) (s : GsiPage) : Prop :=
  ∃ b, s.buttons[pre.countP (·.isMount)]? = some b ∧ (b.cancelled = false →
    (b.ready = true ↔ .load true ∈ pre ++ .mount :: post) ∧
    (b.error = true ↔ .fail ∈ pre ++ .mount :: post ∧ .fail ∉ pre))

/-! ## The five states of the loader -/

/-- The states of the loader. -/
inductive GsiPhase
  /-- It has not been called. -/
  | fresh
  /-- The script is loading. -/
  | loading
  /-- The script has loaded. -/
  | loaded (google : Bool)
  /-- The script has failed to load. -/
  | failed
  /-- It has been called again since. -/
  | waiting
  deriving DecidableEq

/-- The loader in each of them. -/
def GsiPhase.loader : GsiPhase → GsiLoader
  | fresh => .fresh
  | loading => ⟨false, some .loading, 1, [.pending], [0], some 0⟩
  | loaded google => ⟨google, some .loaded, 1, [.resolved google], [], some 0⟩
  | failed => ⟨false, some .failed, 1, [.rejected], [], none⟩
  | waiting => ⟨false, some .failed, 1, [.rejected, .pending], [1], some 1⟩

/-- The state after a call. -/
def GsiPhase.called : GsiPhase → GsiPhase
  | fresh => loading
  | failed => waiting
  | p => p

/-- The promise that a call gets: the second one after a failure. -/
def GsiPhase.promise : GsiPhase → ℕ
  | failed | waiting => 1
  | _ => 0

/-- **A call** in each of the five states. -/
theorem GsiPhase.call (p : GsiPhase) :
    loadGoogleScript p.loader = (p.promise, p.called.loader) := by
  cases p <;> rfl

/-- The element has an event to come in one state only. -/
lemma GsiPhase.loading_of_script {p : GsiPhase} (h : p.loader.script = some .loading) :
    p = loading := by
  cases p with
  | loading => rfl
  | fresh => cases h
  | loaded google => cases h
  | failed => cases h
  | waiting => cases h

/-- The state after a run. -/
structure GsiPhase.After (p : GsiPhase) (es : List GsiEvent) : Prop where
  load : ∀ google, .load google ∈ es ↔ p = .loaded google
  fail : .fail ∈ es ↔ p = .failed ∨ p = .waiting
  fresh : p = .fresh → .mount ∉ es

variable {s s' : GsiPage} {es : List GsiEvent} {p : GsiPhase}

/-- What is neither a mount nor an event of the element changes nothing. -/
lemma GsiPhase.After.other (h : p.After es) {e : GsiEvent}
    (he : (∃ i, e = .unmount i) ∨ ∃ i, e = .react i) : p.After (es ++ [e]) := by
  refine ⟨fun google => ?_, ?_, fun hp => ?_⟩
  · rw [← h.load google]
    rcases he with ⟨i, rfl⟩ | ⟨i, rfl⟩ <;> simp
  · rw [← h.fail]
    rcases he with ⟨i, rfl⟩ | ⟨i, rfl⟩ <;> simp
  · have := h.fresh hp
    rcases he with ⟨i, rfl⟩ | ⟨i, rfl⟩ <;> simpa

/-- A button is mounted. -/
lemma GsiPhase.After.mount (h : p.After es) : p.called.After (es ++ [.mount]) := by
  refine ⟨fun google => ?_, ?_, fun hp => ?_⟩
  · have := h.load google
    cases p <;> simp_all [GsiPhase.called]
  · have := h.fail
    cases p <;> simp_all [GsiPhase.called]
  · cases p <;> cases hp

/-- The script loads. -/
lemma GsiPhase.After.load' (h : GsiPhase.loading.After es) (google : Bool) :
    (GsiPhase.loaded google).After (es ++ [.load google]) := by
  have hload : ∀ g, GsiEvent.load g ∉ es := fun g hg => by cases (h.load g).1 hg
  have hfail : GsiEvent.fail ∉ es := fun hf => by cases h.fail.1 hf <;> contradiction
  refine ⟨fun g => ?_, ?_, fun hp => by cases hp⟩
  · simp [hload g, eq_comm]
  · simp [hfail]

/-- It fails to. -/
lemma GsiPhase.After.fail' (h : GsiPhase.loading.After es) :
    GsiPhase.failed.After (es ++ [.fail]) := by
  have hload : ∀ g, GsiEvent.load g ∉ es := fun g hg => by cases (h.load g).1 hg
  exact ⟨fun g => by simp [hload g], by simp, fun hp => by cases hp⟩

/-! ## What a button shows -/

/-- A button shows what its promise has come to, once that has reached it. -/
structure GsiButton.Fits (b : GsiButton) (promises : List GsiOutcome) : Prop where
  unreacted : b.reacted = false → b.ready = false ∧ b.error = false
  reacted : b.reacted = true → ∃ outcome, promises[b.promise]? = some outcome ∧
    outcome ≠ .pending ∧ (b.cancelled = false →
      (b.ready = true ↔ outcome = .resolved true) ∧ (b.error = true ↔ outcome = .rejected))

/-- What is settled stays so. -/
def KeepsSettled (promises promises' : List GsiOutcome) : Prop :=
  ∀ (i : ℕ) outcome, outcome ≠ .pending → promises[i]? = some outcome →
    promises'[i]? = some outcome

/-- The promises of a state are kept settled by a call. -/
lemma keepsSettled_called (p : GsiPhase) :
    KeepsSettled p.loader.promises p.called.loader.promises := by
  intro i outcome hne hi
  cases p with
  | fresh => cases hi
  | failed =>
    obtain rfl : i = 0 := by
      have := (List.getElem?_eq_some_iff.1 hi).1
      simpa [GsiPhase.loader] using this
    exact hi
  | loading => exact hi
  | loaded google => exact hi
  | waiting => exact hi

/-- While the script is loading nothing is settled. -/
lemma keepsSettled_loading (promises : List GsiOutcome) :
    KeepsSettled GsiPhase.loading.loader.promises promises := by
  intro i outcome hne hi
  obtain ⟨hlt, hi⟩ := List.getElem?_eq_some_iff.1 hi
  obtain rfl : i = 0 := by simpa [GsiPhase.loader] using hlt
  exact absurd hi.symm hne

/-- A button that fits still does. -/
lemma GsiButton.Fits.mono {b : GsiButton} {promises promises' : List GsiOutcome}
    (h : b.Fits promises) (hkeeps : KeepsSettled promises promises') : b.Fits promises' := by
  refine ⟨h.unreacted, fun hreacted => ?_⟩
  obtain ⟨outcome, hpromise, hne, hshown⟩ := h.reacted hreacted
  exact ⟨outcome, hkeeps _ _ hne hpromise, hne, hshown⟩

/-- A button that has just been mounted shows nothing. -/
lemma fits_mounted (promise : ℕ) (promises : List GsiOutcome) :
    (GsiButton.mounted promise).Fits promises :=
  ⟨fun _ => ⟨rfl, rfl⟩, fun hreacted => absurd hreacted Bool.noConfusion⟩

/-- A button that is unmounted. -/
lemma GsiButton.Fits.unmount {b : GsiButton} {promises : List GsiOutcome} (h : b.Fits promises) :
    GsiButton.Fits { b with cancelled := true } promises := by
  refine ⟨h.unreacted, fun hreacted => ?_⟩
  obtain ⟨outcome, hpromise, hne, -⟩ := h.reacted hreacted
  exact ⟨outcome, hpromise, hne, fun hcancelled => by cases hcancelled⟩

/-- A button that its promise reaches. -/
lemma GsiButton.Fits.react {b : GsiButton} {promises : List GsiOutcome} {outcome : GsiOutcome}
    (h : b.Fits promises) (hb : b.reacted = false) (hpromise : promises[b.promise]? = some outcome)
    (hne : outcome ≠ .pending) : (b.react outcome).Fits promises := by
  refine ⟨fun hnot => absurd hnot Bool.noConfusion, fun _ => ⟨outcome, hpromise, hne, ?_⟩⟩
  intro hcancelled
  obtain ⟨hready, herror⟩ := h.unreacted hb
  have hcancelled' : b.cancelled = false := hcancelled
  simp [GsiButton.react, hready, herror, hcancelled']

/-- What every run keeps. -/
structure GsiKept (es : List GsiEvent) (s : GsiPage) : Prop where
  phase : ∃ p : GsiPhase, s.loader = p.loader ∧ p.After es
  length : s.buttons.length = es.countP (·.isMount)
  button : ∀ pre post, es = pre ++ .mount :: post → ∃ b,
    s.buttons[pre.countP (·.isMount)]? = some b ∧
    b.promise = (if .fail ∈ pre then 1 else 0) ∧ b.Fits s.loader.promises

/-- Nothing has happened. -/
lemma gsiKept_fresh : GsiKept [] ⟨.fresh, []⟩ := by
  refine ⟨⟨.fresh, rfl, fun google => ?_, ?_, fun _ => List.not_mem_nil⟩, rfl, fun pre post h => ?_⟩
  · simp
  · simp
  · cases pre <;> cases h

/-- A mount in a longer run is the last event or an earlier one. -/
lemma mount_cases {e : GsiEvent} {pre post : List GsiEvent}
    (h : es ++ [e] = pre ++ .mount :: post) :
    (e = .mount ∧ es = pre) ∨ ∃ post', es = pre ++ .mount :: post' := by
  rcases List.eq_nil_or_concat post with rfl | ⟨post', x, rfl⟩
  · obtain ⟨hpre, he⟩ := List.append_inj' h rfl
    exact .inl ⟨List.singleton_injective he, hpre⟩
  · rw [List.concat_eq_append, ← List.cons_append, ← List.append_assoc] at h
    exact .inr ⟨post', (List.append_inj' h rfl).1⟩

/-- An event that is no mount. -/
lemma GsiKept.other (hs : GsiKept es s) {e : GsiEvent} (he : e ≠ .mount)
    (hphase : ∃ p : GsiPhase, s'.loader = p.loader ∧ p.After (es ++ [e]))
    (hlength : s'.buttons.length = s.buttons.length)
    (hbutton : ∀ (i : ℕ) (b : GsiButton), s.buttons[i]? = some b → b.Fits s.loader.promises →
      ∃ b' : GsiButton, s'.buttons[i]? = some b' ∧ b'.promise = b.promise ∧
        b'.Fits s'.loader.promises) :
    GsiKept (es ++ [e]) s' := by
  refine ⟨hphase, ?_, fun pre post h => ?_⟩
  · rw [hlength, hs.length, List.countP_append, List.countP_singleton,
      if_neg (by simpa [GsiEvent.isMount] using he), Nat.add_zero]
  · rcases mount_cases h with ⟨hmount, -⟩ | ⟨post', rfl⟩
    · exact absurd hmount he
    · obtain ⟨b, hb, hpromise, hfits⟩ := hs.button pre post' rfl
      obtain ⟨b', hb', hpromise', hfits'⟩ := hbutton _ b hb hfits
      exact ⟨b', hb', hpromise'.trans hpromise, hfits'⟩

/-- A button is written. -/
lemma exists_set {buttons : List GsiButton} {i : ℕ} {b : GsiButton} (b' : GsiButton)
    (hb : buttons[i]? = some b) (hpromise : b'.promise = b.promise) {promises : List GsiOutcome}
    (hfits : b.Fits promises → b'.Fits promises) (k : ℕ) (c : GsiButton)
    (hc : buttons[k]? = some c) (hcfits : c.Fits promises) :
    ∃ c', (buttons.set i b')[k]? = some c' ∧ c'.promise = c.promise ∧ c'.Fits promises := by
  by_cases hik : i = k
  · subst hik
    obtain rfl : b = c := Option.some.inj (hb.symm.trans hc)
    exact ⟨b', List.getElem?_set_self (List.getElem?_eq_some_iff.1 hb).1, hpromise, hfits hcfits⟩
  · exact ⟨c, (List.getElem?_set_ne hik).trans hc, rfl, hcfits⟩

/-- **One step.** -/
lemma GsiKept.step (hs : GsiKept es s) {e : GsiEvent} (h : GsiStep s e s') :
    GsiKept (es ++ [e]) s' := by
  obtain ⟨p, hp, hafter⟩ := hs.phase
  cases h with
  | mount =>
    refine ⟨⟨p.called, ?_, hafter.mount⟩, ?_, fun pre post h => ?_⟩
    · rw [hp, GsiPhase.call]
    · simp [hs.length, GsiEvent.isMount]
    rcases mount_cases h with ⟨-, rfl⟩ | ⟨post', rfl⟩
    · refine ⟨.mounted (loadGoogleScript s.loader).1, ?_, ?_, fits_mounted _ _⟩
      · rw [← hs.length]
        exact List.getElem?_concat_length
      · change (loadGoogleScript s.loader).1 = _
        rw [hp, GsiPhase.call, if_congr hafter.fail rfl rfl]
        cases p <;> simp [GsiPhase.promise]
    · obtain ⟨b, hb, hpromise, hfits⟩ := hs.button pre post' rfl
      rw [hp] at hfits
      refine ⟨b, ?_, hpromise, ?_⟩
      · exact (List.getElem?_append_left (List.getElem?_eq_some_iff.1 hb).1).trans hb
      · rw [hp, GsiPhase.call]
        exact hfits.mono (keepsSettled_called p)
  | @unmount i b hb =>
    refine hs.other (by simp) ⟨p, hp, hafter.other (.inl ⟨i, rfl⟩)⟩ (List.length_set ..) ?_
    exact exists_set { b with cancelled := true } hb rfl GsiButton.Fits.unmount
  | @load google hscript =>
    obtain rfl : p = .loading := GsiPhase.loading_of_script (hp ▸ hscript)
    refine hs.other (by simp) ⟨.loaded google, ?_, hafter.load' google⟩ rfl ?_
    · rw [hp]
      rfl
    · rintro i b hb hfits
      rw [hp] at hfits
      exact ⟨b, hb, rfl, hfits.mono (keepsSettled_loading _)⟩
  | fail hscript =>
    obtain rfl : p = .loading := GsiPhase.loading_of_script (hp ▸ hscript)
    refine hs.other (by simp) ⟨.failed, ?_, hafter.fail'⟩ rfl ?_
    · rw [hp]
      rfl
    · rintro i b hb hfits
      rw [hp] at hfits
      exact ⟨b, hb, rfl, hfits.mono (keepsSettled_loading _)⟩
  | @react i b outcome hb hreacted hpromise hne =>
    refine hs.other (by simp) ⟨p, hp, hafter.other (.inr ⟨i, rfl⟩)⟩ (List.length_set ..) ?_
    exact exists_set (b.react outcome) hb rfl fun hfits => hfits.react hreacted hpromise hne

/-- In the end, a promise that has been settled has reached its buttons. -/
lemma GsiPage.Quiet.reacted (hquiet : s.Quiet) {i : ℕ} {b : GsiButton} {outcome : GsiOutcome}
    (hb : s.buttons[i]? = some b) (hpromise : s.loader.promises[b.promise]? = some outcome)
    (hne : outcome ≠ .pending) : b.reacted = true := by
  by_contra hnot
  rcases hquiet _ _ (.react hb (Bool.eq_false_iff.2 hnot) hpromise hne) with h | ⟨i, h⟩
  · cases h
  · cases h

/-- A button whose promise has been settled shows what it has come to. -/
lemma GsiButton.Fits.shown {b : GsiButton} {promises : List GsiOutcome} {outcome : GsiOutcome}
    (h : b.Fits promises) (hreacted : b.reacted = true) (hcancelled : b.cancelled = false)
    (hpromise : promises[b.promise]? = some outcome) :
    (b.ready = true ↔ outcome = .resolved true) ∧ (b.error = true ↔ outcome = .rejected) := by
  obtain ⟨outcome', hpromise', -, hshown⟩ := h.reacted hreacted
  obtain rfl : outcome = outcome' := Option.some.inj (hpromise.symm.trans hpromise')
  exact hshown hcancelled

/-- A button whose promise is not settled shows nothing. -/
lemma GsiButton.Fits.idle {b : GsiButton} {promises : List GsiOutcome} (h : b.Fits promises)
    (hpromise : ∀ outcome, promises[b.promise]? = some outcome → outcome = .pending) :
    b.ready = false ∧ b.error = false := by
  refine h.unreacted ?_
  by_contra hreacted
  obtain ⟨outcome, houtcome, hne, -⟩ := h.reacted (by simpa using hreacted)
  exact hne (hpromise outcome houtcome)

/-- After the failure, the first promise is rejected, and a second one stays pending. -/
lemma GsiPhase.promises_of_failed (h : p = .failed ∨ p = .waiting) :
    p.loader.promises[0]? = some .rejected ∧
      ∀ outcome, p.loader.promises[1]? = some outcome → outcome = .pending := by
  rcases h with rfl | rfl
  · exact ⟨rfl, fun _ h => by cases h⟩
  · exact ⟨rfl, fun _ h => (Option.some.inj h).symm⟩

/-- A button that is mounted after the failure shows nothing. -/
lemma GsiKept.idle (hs : GsiKept es s) {pre post : List GsiEvent} (hes : es = pre ++ .mount :: post)
    (hfail : .fail ∈ pre) : ButtonIdle pre s := by
  obtain ⟨p, hp, hafter⟩ := hs.phase
  obtain ⟨b, hb, hpromise, hfits⟩ := hs.button pre post hes
  have hphase := hafter.fail.1 (hes ▸ List.mem_append_left _ hfail)
  refine ⟨b, hb, hfits.idle ?_⟩
  rw [hpromise, if_pos hfail, hp]
  exact (GsiPhase.promises_of_failed hphase).2

/-- In the end, a button shows what has become of the script. -/
lemma GsiKept.answered (hs : GsiKept es s) (hquiet : s.Quiet) {pre post : List GsiEvent}
    (hes : es = pre ++ .mount :: post) : ButtonAnswered pre post s := by
  obtain ⟨p, hp, hafter⟩ := hs.phase
  by_cases hlate : .fail ∈ pre
  · -- it waits for an event that is over
    obtain ⟨b, hb, hready, herror⟩ := hs.idle hes hlate
    have hload : .load true ∉ es := fun hload => by
      have hphase := hafter.fail.1 (hes ▸ List.mem_append_left _ hlate)
      rw [(hafter.load true).1 hload] at hphase
      rcases hphase with h | h <;> cases h
    rw [hes] at hload
    exact ⟨b, hb, fun _ => by simp [hready, herror, hlate, hload]⟩
  obtain ⟨b, hb, hpromise, hfits⟩ := hs.button pre post hes
  rw [if_neg hlate] at hpromise
  rw [ButtonAnswered, ← hes, hafter.load, hafter.fail]
  refine ⟨b, hb, fun hcancelled => ?_⟩
  have hshown : ∀ outcome, s.loader.promises[0]? = some outcome → outcome ≠ .pending →
      (b.ready = true ↔ outcome = .resolved true) ∧ (b.error = true ↔ outcome = .rejected) := by
    intro outcome h0 hne
    rw [← hpromise] at h0
    exact hfits.shown (hquiet.reacted hb h0 hne) hcancelled h0
  rw [hp] at hshown
  cases p with
  | fresh => exact absurd (hes ▸ List.mem_append_right pre List.mem_cons_self) (hafter.fresh rfl)
  | loading =>
    -- the element has an event to come
    rcases hquiet (.load true) _ (.load (by rw [hp]; rfl)) with h | ⟨i, h⟩ <;> cases h
  | loaded google =>
    obtain ⟨hready, herror⟩ := hshown (.resolved google) rfl GsiOutcome.noConfusion
    simp [hready, herror]
  | failed =>
    obtain ⟨hready, herror⟩ := hshown .rejected rfl GsiOutcome.noConfusion
    simp [hready, herror, hlate]
  | waiting =>
    obtain ⟨hready, herror⟩ := hshown .rejected rfl GsiOutcome.noConfusion
    simp [hready, herror, hlate]

/-- **What a button shows.** In every run, at most one script is added to the document, and a button
that is mounted after it has failed to load, to retry, never shows anything. In the end, a button
can be used exactly if the script has loaded, and says that it could not be exactly if that has
happened since the button was mounted. -/
theorem buttonAnswered_of_run (h : Run GsiStep ⟨.fresh, []⟩ es s) :
    s.loader.appended ≤ 1 ∧ ∀ pre post, es = pre ++ .mount :: post →
      (.fail ∈ pre → ButtonIdle pre s) ∧ (s.Quiet → ButtonAnswered pre post s) := by
  have hs : GsiKept es s :=
    h.induction_from gsiKept_fresh fun _ _ _ _ _ hs hstep => hs.step hstep
  refine ⟨?_, fun pre post hes => ⟨hs.idle hes, fun hquiet => hs.answered hquiet hes⟩⟩
  obtain ⟨p, hp, -⟩ := hs.phase
  rw [hp]
  cases p <;> simp [GsiPhase.loader, GsiLoader.fresh]

/-- A script that has failed to load, a button that says so, and one that has been mounted since. -/
def GsiPage.retried : GsiPage :=
  ⟨GsiPhase.waiting.loader, [(GsiButton.mounted 0).react .rejected, .mounted 1]⟩

/-- The second button waits for ever. -/
lemma quiet_retried : GsiPage.retried.Quiet := by
  intro e t h
  cases h with
  | mount => exact .inl rfl
  | @unmount i b hb => exact .inr ⟨i, rfl⟩
  | load hscript => cases hscript
  | fail hscript => cases hscript
  | @react i b outcome hb hreacted hpromise hne =>
    match i, hb with
    | 0, rfl => cases hreacted
    | 1, rfl => exact absurd (Option.some.inj hpromise).symm hne

/-- The run that leads there. -/
lemma run_retried :
    Run GsiStep ⟨.fresh, []⟩ [.mount, .fail, .react 0, .mount] GsiPage.retried :=
  .cons .mount <| .cons (.fail rfl) <|
    .cons (.react rfl rfl rfl GsiOutcome.noConfusion) <|
    .cons .mount <| .nil _

/-- `buttonAnswered_of_run` for a script that fails to load and a button that is mounted after. -/
theorem buttonAnswered_of_run_retry :
    ButtonAnswered [] [.fail, .react 0, .mount] .retried ∧
      ButtonIdle [.mount, .fail, .react 0] .retried :=
  have h := buttonAnswered_of_run run_retried
  ⟨(h.2 _ _ rfl).2 quiet_retried, (h.2 _ _ rfl).1 (by decide)⟩

end WatchTower
