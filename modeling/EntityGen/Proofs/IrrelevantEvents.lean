import EntityGen.Proofs.Prompt.TwoSides
import EntityGen.Run
import Mathlib.Data.List.Forall2

/-!
# Events that do not show

Of all that happens at a prompt only pasted texts and presses of the keys with a binding count, and
nothing counts after the press that closes it. Whatever else happens is dropped from what happens
(`reduce`) without a trace (`Session.play_reduce`), and which keys are held down together with
another does not show but for the `c` (`Session.play_alike`). So neither shows in the prompt, nor in
a run of the program at a terminal (`irrelevant_events_do_not_show`).
-/

namespace EntityGen

namespace Prompt

/-! ## What counts -/

/-- Whether a key does something when it is pressed. -/
def Key.isBound : Key → Bool
  | .up | .down | .tab | .backTab | .insert | .pageUp | .pageDown | .function _ | .null => false
  | _ => true

namespace Event

/-- A press of Enter, of Escape, or of `c` together with Ctrl. -/
def closes : Event → Bool
  | .key .enter _ .press | .key .escape _ .press => true
  | .key (.char c) held .press => c == 'c' && held.control
  | _ => false

/-- A text that is pasted, or a press of a key that does something. -/
def isRelevant : Event → Bool
  | .paste _ => true
  | .key k _ .press => k.isBound
  | _ => false

/-- Two events that differ at most in the keys held down together with one that is no `c`. -/
inductive Alike : Event → Event → Prop where
  | refl (event : Event) : Alike event event
  | held {k : Key} (hk : k ≠ .char 'c') (held held' : Modifiers) (motion : KeyMotion) :
      Alike (.key k held motion) (.key k held' motion)

end Event

/-- What happens up to the first event that closes the prompt, and that event. -/
def upToClosing : List Event → List Event
  | [] => []
  | event :: events => if event.closes then [event] else event :: upToClosing events

/-- What happens without the events that do not count. -/
def reduce (events : List Event) : List Event := (upToClosing events).filter (·.isRelevant)

/-! ## The prompt -/

namespace Session

variable {s : Session} {event event' : Event} {events events' : List Event}

theorem press_eq_self {e : Editor} {k : Key} (held : Modifiers) (h : k.isBound = false) :
    press e k held = ⟨e, .editing⟩ := by
  cases k with
  | up | down | tab | backTab | insert | pageUp | pageDown | function _ | null => rfl
  | _ => cases h

theorem handle_of_irrelevant (h : event.isRelevant = false) : s.handle event = s := by
  obtain ⟨e, status⟩ := s
  cases status with
  | submitted | cancelled => exact handle_of_closed (by simp) event
  | editing =>
    cases event with
    | paste text => cases h
    | key k held motion =>
      cases motion with
      | press => exact press_eq_self held h
      | repeated | release => rfl
    | focusGained | focusLost | resize | mouse => rfl

theorem status_handle_of_closes (h : event.closes = true) : (s.handle event).status ≠ .editing := by
  obtain ⟨e, status⟩ := s
  cases status with
  | submitted | cancelled =>
    rw [handle_of_closed (by simp)]
    simp
  | editing =>
    unfold Event.closes at h
    split at h
    · simp [handle, press]
    · simp [handle, press, cancels]
    · simp only [Bool.and_eq_true, beq_iff_eq] at h
      simp [handle, press, cancels, h]
    · cases h

/-- The keys held down with another matter for a `c` only. -/
theorem press_held {e : Editor} {k : Key} (hk : k ≠ .char 'c') (held held' : Modifiers) :
    press e k held = press e k held' := by
  simp [press, cancels, hk]

theorem handle_alike (h : event.Alike event') : s.handle event = s.handle event' := by
  cases h with
  | refl => rfl
  | held hk held held' motion =>
    obtain ⟨e, status⟩ := s
    cases status with
    | submitted | cancelled => rfl
    | editing =>
      cases motion with
      | press => exact press_held hk held held'
      | repeated | release => rfl

theorem play_cons (s : Session) (event : Event) (events : List Event) :
    s.play (event :: events) = (s.handle event).play events := rfl

theorem play_upToClosing (s : Session) (events : List Event) :
    s.play (upToClosing events) = s.play events := by
  induction events generalizing s with
  | nil => rfl
  | cons event events ih =>
    rw [upToClosing]
    split
    · rename_i hcloses
      rw [play_cons, play_cons, play_of_closed (status_handle_of_closes hcloses) events]
      rfl
    · rw [play_cons, play_cons]
      exact ih _

theorem play_filter (s : Session) (events : List Event) :
    s.play (events.filter (·.isRelevant)) = s.play events := by
  induction events generalizing s with
  | nil => rfl
  | cons event events ih =>
    rw [List.filter_cons, play_cons]
    split
    · exact ih _
    · rename_i hirrelevant
      rw [handle_of_irrelevant (Bool.eq_false_iff.mpr hirrelevant)]
      exact ih s

/-- Only what counts shows. -/
theorem play_reduce (s : Session) (events : List Event) : s.play (reduce events) = s.play events :=
  (play_filter s _).trans (play_upToClosing s events)

theorem play_alike (h : List.Forall₂ Event.Alike events events') :
    s.play events = s.play events' := by
  induction h generalizing s with
  | nil => rfl
  | cons hevent _ ih =>
    rw [play_cons, play_cons, handle_alike hevent]
    exact ih

theorem entered?_eq_none_iff (h : s.status = .submitted) :
    s.entered? = none ↔ ∀ c ∈ s.editor.text, Text.isBlank c = true := by
  unfold entered?
  simp [h]

theorem toList_of_entered? {text : String} (h : s.entered? = some text) :
    text.toList = s.editor.text := by
  unfold entered? at h
  split at h
  · cases h
    exact String.toList_ofList
  · cases h

end Session

end Prompt

/-! ## A run at a terminal -/

namespace Job

/-- A job depends on its input only by what comes of asking. -/
theorem on_input {α : Type} (j : Job α) (fs : Files.FileSystem) {i i' : Input}
    (hreply : i.reply = i'.reply) (hterminal : i.isTerminal = i'.isTerminal) :
    j.on ⟨fs, i⟩ = j.on ⟨fs, i'⟩ := by
  induction j generalizing fs with
  | done a => rfl
  | fail p => rfl
  | log entry next ih => simp only [on, ih fs]
  | locate path next ih => exact ih _ fs
  | ask question next ih => simp only [on, hreply, hterminal, ih _ fs]
  | write path content next ih =>
    simp only [on]
    cases fs.write path content with
    | error cause => rfl
    | ok fs' => exact ih fs'

end Job

open Prompt

/-- A run at a terminal depends on what happens there only by what it makes of the prompt. -/
theorem run_terminal {events events' : List Event}
    (h : Session.start.play events = Session.start.play events') (call : Invocation)
    (fs : Files.FileSystem) :
    run call ⟨fs, .terminal events⟩ = run call ⟨fs, .terminal events'⟩ := by
  have hreply : (Input.terminal events).reply = (Input.terminal events').reply := by
    simp only [Input.reply, h]
  unfold run
  split
  · rfl
  · rw [Job.on_input _ fs hreply rfl]

/-- Whatever happens at a prompt, the same without what does not count comes to the same: the
prompt is closed in the same way or still open, its line and its cursor are the same, and so is the
text that is submitted. That is so whatever keys are held down with those that are no `c`, of the
stored line as of the counted one, and of a whole run at a terminal. A submitted text is the line as
it is, and it is none just when the line is white space. -/
theorem irrelevant_events_do_not_show (events : List Event) :
    let session := Session.start.play events
    Session.start.play (reduce events) = session ∧
    (∀ changed, List.Forall₂ Event.Alike events changed ∨
        List.Forall₂ Event.Alike (reduce events) changed →
      Session.start.play changed = session ∧
      Buffer.empty.play? changed = Buffer.empty.play? events ∧
      ∀ call fs, run call ⟨fs, .terminal changed⟩ = run call ⟨fs, .terminal events⟩) ∧
    (session.status = .submitted →
      (session.entered? = none ↔ ∀ c ∈ session.editor.text, Text.isBlank c = true) ∧
      ∀ text, session.entered? = some text → text.toList = session.editor.text) := by
  intro session
  have hreduce : Session.start.play (reduce events) = session := Session.play_reduce _ events
  refine ⟨hreduce, fun changed hchanged => ?_, fun hsubmitted => ?_⟩
  · have hplay : Session.start.play changed = session := by
      rcases hchanged with halike | halike
      · exact (Session.play_alike halike).symm
      · exact (Session.play_alike halike).symm.trans hreduce
    refine ⟨hplay, ?_, fun call fs => run_terminal hplay call fs⟩
    rw [buffer_play_start, buffer_play_start, hplay]
  · exact ⟨Session.entered?_eq_none_iff hsubmitted, fun _ => Session.toList_of_entered?⟩

/-- A text typed with much that does not count, and the same text typed with Shift and Alt. -/
theorem noisy_text_is_submitted :
    let events : List Event :=
      [.focusGained, .key (.char 'C') ⟨true, false, false⟩ .press, .press .tab,
        .key .escape .none .release, .press (.char 'é'),
        .key (.char 'c') ⟨true, false, false⟩ .repeated, .press .up, .resize,
        .press (.function 1), .press .enter, .press .escape]
    let changed : List Event :=
      [.key (.char 'C') ⟨false, true, false⟩ .press, .key (.char 'é') ⟨false, false, true⟩ .press,
        .press .enter]
    List.Forall₂ Event.Alike (reduce events) changed ∧
      Session.start.play changed = Session.start.play events ∧
      (Session.start.play events).status = .submitted ∧
      (Session.start.play events).editor = ⟨['C', 'é'], 2⟩ ∧
      (Session.start.play events).entered? ≠ none := by
  intro events changed
  have hreduce : reduce events =
      [.key (.char 'C') ⟨true, false, false⟩ .press, .press (.char 'é'), .press .enter] := by decide
  have halike : List.Forall₂ Event.Alike (reduce events) changed := by
    rw [hreduce]
    refine .cons (.held (by decide) _ _ _) (.cons (.held (by decide) _ _ _) (.cons (.refl _) .nil))
  obtain ⟨-, hchanged, hsubmitted⟩ := irrelevant_events_do_not_show events
  have hstatus : (Session.start.play events).status = .submitted := by decide
  have heditor : (Session.start.play events).editor = ⟨['C', 'é'], 2⟩ := by decide
  refine ⟨halike, (hchanged changed (.inr halike)).1, hstatus, heditor, fun hnone => ?_⟩
  have hblank := (hsubmitted hstatus).1.mp hnone
  rw [heditor] at hblank
  exact absurd (hblank 'C' List.mem_cons_self) (by decide)

end EntityGen
