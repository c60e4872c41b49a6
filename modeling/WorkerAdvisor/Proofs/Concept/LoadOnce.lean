import Mathlib.Data.List.Induction
import WorkerAdvisor.Proofs.Concept.Question

/-!
A desk loads its knowledge base once.

What a desk answers is a matter of its history alone. `fileAfter` is the file that a history leaves behind, and
`LoadedFrom` says which entries the desk of the moment holds: those of the first question since the desk was new
that found a file from which they could be loaded. `Unloaded` says that no question has found one yet. Exactly one
of the two holds after every run (`loadedFrom_run_iff`, `unloaded_run_iff`), so that up to its first success a desk
answers like a fresh one on the file of the moment, and from then on by the entries of that success
(`reply_of_run`).
-/

set_option autoImplicit false

namespace WorkerAdvisor.Concept

/-! ### What an event does to the world -/

/-- The file after a history. -/
def fileAfter (file : File) : List Event → File
  | [] => file
  | .write content :: events => fileAfter (some content) events
  | .delete :: events => fileAfter none events
  | .explain _ :: events | .list :: events | .knowledgeBase :: events | .newDesk :: events =>
    fileAfter file events

/-- An event changes the file in one way, whatever the desk does. -/
theorem file_step (directory : String) (world : World) (event : Event) :
    (world.step directory event).2.1.file = fileAfter world.file [event] := by
  cases event with
  | delete =>
    cases hfile : world.file with
    | none => simp [World.step, fileAfter, hfile]
    | some content => simp [World.step, fileAfter, hfile]
  | _ => rfl

/-- Until there is a new desk, a desk keeps what it holds. -/
theorem loaded_step_of_some (directory : String) {world : World} {entries : List Entry} {event : Event}
    (hloaded : world.desk.loaded = some entries) (hdesk : event ≠ .newDesk) :
    (world.step directory event).2.1.desk.loaded = some entries := by
  cases hquestion : event.needsEntries with
  | true => simpa [step_question directory world hquestion, knowledgeBase_of_loaded directory world.file hloaded]
  | false =>
    cases event with
    | explain asked => simpa [step_refused directory world hquestion]
    | delete => cases hfile : world.file <;> simpa [World.step, hfile]
    | write content => exact hloaded
    | newDesk => exact absurd rfl hdesk
    | _ => simp [Event.needsEntries] at hquestion

/-- A desk that holds nothing gets what a question can load, and nothing by any other event. -/
theorem loaded_step_of_none (directory : String) {world : World} (event : Event)
    (hloaded : world.desk.loaded = none) :
    (world.step directory event).2.1.desk.loaded =
      if event.needsEntries then (KnowledgeBase.load world.file).toOption else none := by
  cases hquestion : event.needsEntries with
  | true => simp [step_question directory world hquestion, desk_of_unloaded directory hloaded]
  | false =>
    cases event with
    | explain asked => simpa [step_refused directory world hquestion]
    | delete => cases hfile : world.file <;> simpa [World.step, hfile]
    | write content => exact hloaded
    | newDesk => rfl
    | _ => simp [Event.needsEntries] at hquestion

/-! ### Histories -/

/-- No question that was asked since the desk was new found a file that could be loaded. -/
def Unloaded (file : File) (history : List Event) : Prop :=
  ∀ before question after, history = before ++ question :: after → question.needsEntries = true →
    Event.newDesk ∉ after → ∃ error, KnowledgeBase.load (fileAfter file before) = .error error

/-- The entries were loaded by the first question that found a file that could be loaded, and there was no new
desk after it. -/
def LoadedFrom (file : File) (entries : List Entry) (history : List Event) : Prop :=
  ∃ before question after, history = before ++ question :: after ∧ question.needsEntries = true ∧
    Event.newDesk ∉ after ∧ Unloaded file before ∧ KnowledgeBase.load (fileAfter file before) = .ok entries

theorem unloaded_nil (file : File) : Unloaded file [] := by
  intro before question after hsplit
  simp at hsplit

/-- A history in which nothing could be loaded leaves no entries. -/
theorem not_loadedFrom_of_unloaded {file : File} {entries : List Entry} {history : List Event}
    (hunloaded : Unloaded file history) : ¬ LoadedFrom file entries history := by
  rintro ⟨before, question, after, hsplit, hquestion, hdesk, -, hload⟩
  obtain ⟨error, herror⟩ := hunloaded before question after hsplit hquestion hdesk
  rw [hload] at herror
  cases herror

/-- A place in a longer history is the last event, or a place in the shorter one. -/
theorem snoc_split {history before after : List Event} {event question : Event}
    (hsplit : history ++ [event] = before ++ question :: after) :
    (history = before ∧ event = question ∧ after = []) ∨
      ∃ rest, after = rest ++ [event] ∧ history = before ++ question :: rest := by
  rcases List.eq_nil_or_concat after with rfl | ⟨rest, last, rfl⟩
  · left
    obtain ⟨hhistory, hevent⟩ := List.append_inj' hsplit rfl
    exact ⟨hhistory, List.head_eq_of_cons_eq hevent, rfl⟩
  · right
    rw [List.concat_eq_append, ← List.cons_append, ← List.append_assoc] at hsplit
    obtain ⟨hhistory, hevent⟩ := List.append_inj' hsplit rfl
    exact ⟨rest, by rw [List.concat_eq_append, List.head_eq_of_cons_eq hevent], hhistory⟩

/-- A new desk has loaded nothing. -/
theorem unloaded_newDesk (file : File) (history : List Event) : Unloaded file (history ++ [.newDesk]) := by
  intro before question after hsplit hquestion hdesk
  rcases snoc_split hsplit with ⟨-, rfl, -⟩ | ⟨rest, rfl, -⟩
  · simp [Event.needsEntries] at hquestion
  · simp at hdesk

/-- Nothing is loaded by an event that asks for no entries or fails to load them. -/
theorem Unloaded.snoc {file : File} {history : List Event} {event : Event} (hunloaded : Unloaded file history)
    (hfails : event.needsEntries = true → ∃ error, KnowledgeBase.load (fileAfter file history) = .error error) :
    Unloaded file (history ++ [event]) := by
  intro before question after hsplit hquestion hdesk
  rcases snoc_split hsplit with ⟨rfl, rfl, -⟩ | ⟨rest, rfl, hhistory⟩
  · exact hfails hquestion
  · exact hunloaded before question rest hhistory hquestion fun hmem ↦ hdesk (by simp [hmem])

/-- Entries stay until there is a new desk. -/
theorem LoadedFrom.snoc {file : File} {entries : List Entry} {history : List Event} {event : Event}
    (hloaded : LoadedFrom file entries history) (hdesk : event ≠ .newDesk) :
    LoadedFrom file entries (history ++ [event]) := by
  obtain ⟨before, question, after, rfl, hquestion, hafter, hunloaded, hload⟩ := hloaded
  refine ⟨before, question, after ++ [event], by simp, hquestion, ?_, hunloaded, hload⟩
  simpa using ⟨hafter, hdesk.symm⟩

/-! ### Runs -/

/-- A run goes on in the world that its first events leave. -/
theorem run_append (directory : String) (world : World) (first second : List Event) :
    world.run directory (first ++ second) =
      ((world.run directory first).1 ++ ((world.run directory first).2.run directory second).1,
        ((world.run directory first).2.run directory second).2) := by
  induction first generalizing world with
  | nil => rfl
  | cons event events ih => simp [World.run, ih]

/-- Every event is answered. -/
theorem length_run (directory : String) (world : World) (events : List Event) :
    (world.run directory events).1.length = events.length := by
  induction events generalizing world with
  | nil => rfl
  | cons event events ih => simp [World.run, ih]

/-- The last event of a run is one step in the world before it. -/
theorem run_snoc (directory : String) (world : World) (history : List Event) (event : Event) :
    (world.run directory (history ++ [event])).2 =
      ((world.run directory history).2.step directory event).2.1 := by
  simp [run_append, World.run]

theorem fileAfter_snoc (file : File) (history : List Event) (event : Event) :
    fileAfter file (history ++ [event]) = fileAfter (fileAfter file history) [event] := by
  induction history generalizing file with
  | nil => rfl
  | cons first history ih => cases first <;> simp [fileAfter, ih]

/-- In the end of a run the file is what the history says. -/
theorem file_run (directory : String) (world : World) (history : List Event) :
    (world.run directory history).2.file = fileAfter world.file history := by
  induction history using List.reverseRecOn with
  | nil => rfl
  | append_singleton history event ih => rw [run_snoc, file_step, ih, fileAfter_snoc]

/-- The invariant of every run: what the desk holds is what its history says. -/
theorem loaded_run (directory : String) (file : File) (history : List Event) :
    let loaded := (World.run directory ⟨file, .fresh⟩ history).2.desk.loaded
    (loaded = none → Unloaded file history) ∧ ∀ entries, loaded = some entries → LoadedFrom file entries history := by
  induction history using List.reverseRecOn with
  | nil => exact ⟨fun _ ↦ unloaded_nil file, fun _ hloaded ↦ by simp [World.run, Desk.fresh] at hloaded⟩
  | append_singleton history event ih =>
    obtain ⟨hnone, hsome⟩ := ih
    rw [run_snoc]
    have hfile := file_run directory ⟨file, .fresh⟩ history
    cases hbefore : (World.run directory ⟨file, .fresh⟩ history).2.desk.loaded with
    | none =>
      have hunloaded := hnone hbefore
      rw [loaded_step_of_none directory event hbefore, hfile]
      cases hload : KnowledgeBase.load (fileAfter file history) with
      | error error =>
        refine ⟨fun _ ↦ hunloaded.snoc fun _ ↦ ⟨error, hload⟩, fun entries hloaded ↦ ?_⟩
        split at hloaded <;> cases hloaded
      | ok found =>
        cases hquestion : event.needsEntries with
        | false => exact ⟨fun _ ↦ hunloaded.snoc (by simp [hquestion]), fun entries hloaded ↦ by cases hloaded⟩
        | true =>
          refine ⟨(absurd · (Option.some_ne_none _)), fun entries hloaded ↦ ?_⟩
          have hfound : found = entries := by simpa [Except.toOption] using hloaded
          exact ⟨history, event, [], by simp, hquestion, by simp, hunloaded, hfound ▸ hload⟩
    | some found =>
      by_cases hdesk : event = .newDesk
      · subst hdesk
        exact ⟨fun _ ↦ unloaded_newDesk file history, fun _ hloaded ↦ by simp [World.step, Desk.fresh] at hloaded⟩
      · rw [loaded_step_of_some directory hbefore hdesk]
        refine ⟨(absurd · (Option.some_ne_none _)), fun entries hloaded ↦ ?_⟩
        cases hloaded
        exact (hsome found hbefore).snoc hdesk

/-- A desk that has loaded nothing yet is a fresh one. -/
theorem unloaded_run_iff (directory : String) (file : File) (history : List Event) :
    (World.run directory ⟨file, .fresh⟩ history).2.desk.loaded = none ↔ Unloaded file history := by
  obtain ⟨hnone, hsome⟩ := loaded_run directory file history
  refine ⟨hnone, fun hunloaded ↦ ?_⟩
  cases hloaded : (World.run directory ⟨file, .fresh⟩ history).2.desk.loaded with
  | none => rfl
  | some entries => exact absurd (hsome entries hloaded) (not_loadedFrom_of_unloaded hunloaded)

/-- What a desk has loaded stays over all events but a new desk. -/
theorem loaded_run_of_some (directory : String) {world : World} {entries : List Entry}
    (hloaded : world.desk.loaded = some entries) {events : List Event} (hdesk : Event.newDesk ∉ events) :
    (world.run directory events).2.desk.loaded = some entries := by
  induction events generalizing world with
  | nil => exact hloaded
  | cons event events ih =>
    rw [List.mem_cons, not_or] at hdesk
    exact ih (loaded_step_of_some directory hloaded (Ne.symm hdesk.1)) hdesk.2

/-- A desk holds the entries of the first success since it was new. -/
theorem loadedFrom_run_iff (directory : String) (file : File) (history : List Event) (entries : List Entry) :
    (World.run directory ⟨file, .fresh⟩ history).2.desk.loaded = some entries ↔
      LoadedFrom file entries history := by
  refine ⟨(loaded_run directory file history).2 entries, ?_⟩
  rintro ⟨before, question, after, rfl, hquestion, hdesk, hunloaded, hload⟩
  have hnone := (unloaded_run_iff directory file before).mpr hunloaded
  have hfirst := loaded_step_of_none directory question hnone
  rw [file_run, if_pos hquestion, hload] at hfirst
  rw [run_append]
  exact loaded_run_of_some directory hfirst hdesk

/-- Loading once, over whole runs. `reply`, `log` and `next` are what an event is answered with in a run that
starts with a fresh desk, what is logged then, and the world after it.

The desk has loaded nothing exactly if no question since it was new could, and otherwise holds the entries of the
first question that could. Before that success a question is answered, and logged, as by a fresh desk on the file
of that moment, and if it fails the desk stays as it was. From the success on every question is answered by its
entries, and they stay until there is a new desk. An explanation of what is no question is refused in the same way
at every moment, and nothing changes. This holds for every argument that a caller can send. -/
theorem reply_of_run (directory : String) (file : File) (history : List Event) (event : Event)
    (later : List Event) :
    let world := (World.run directory ⟨file, .fresh⟩ history).2
    ∃ reply log next,
      (World.run directory ⟨file, .fresh⟩ (history ++ event :: later)).1[history.length]? = some (reply, log) ∧
      (World.run directory ⟨file, .fresh⟩ (history ++ [event])).2 = next ∧
      (world.desk.loaded = none ↔ Unloaded file history) ∧
      (∀ entries, world.desk.loaded = some entries ↔ LoadedFrom file entries history) ∧
      (Unloaded file history → event.needsEntries = true →
        (let fresh := World.step directory ⟨fileAfter file history, .fresh⟩ event
        reply = fresh.1 ∧ log = fresh.2.2) ∧
        ∀ error, reply = .failure error → next = world ∧ Unloaded file (history ++ [event])) ∧
      (∀ entries, LoadedFrom file entries history →
        (event.needsEntries = true → reply = event.replyFrom entries) ∧
        (event ≠ .newDesk → LoadedFrom file entries (history ++ [event]))) ∧
      (∀ asked, event = .explain asked → event.needsEntries = false →
        reply = .failure (refusal asked) ∧ log = [] ∧ next = world) := by
  intro world
  have hworld : world.file = fileAfter file history := file_run directory ⟨file, .fresh⟩ history
  refine ⟨(world.step directory event).1, (world.step directory event).2.2, (world.step directory event).2.1,
    ?_, run_snoc directory _ history event, unloaded_run_iff directory file history,
    loadedFrom_run_iff directory file history, ?_, ?_, ?_⟩
  · rw [run_append, List.getElem?_append_right (Nat.le_of_eq (length_run ..)), length_run]
    simp [World.run, world]
  · intro hunloaded hquestion
    have hfresh := eq_fresh ((unloaded_run_iff directory file history).mpr hunloaded)
    have heq : world = ⟨fileAfter file history, .fresh⟩ := by rw [← hworld, ← hfresh]
    refine ⟨by rw [heq]; exact ⟨rfl, rfl⟩, fun error hfailure ↦ ?_⟩
    have hnext : (world.step directory event).2.1 = world := step_failure directory hquestion hfailure
    refine ⟨hnext, (unloaded_run_iff directory file _).mp ?_⟩
    rw [run_snoc]
    show (world.step directory event).2.1.desk.loaded = none
    rw [hnext]
    exact (unloaded_run_iff directory file history).mpr hunloaded
  · intro entries hloaded
    have hdesk := (loadedFrom_run_iff directory file history entries).mpr hloaded
    refine ⟨fun hquestion ↦ ?_, hloaded.snoc⟩
    rw [step_question directory world hquestion, knowledgeBase_of_loaded directory world.file hdesk]
    rfl
  · rintro asked rfl hquestion
    simp [step_refused directory world hquestion]

/-- A file without entries is loaded once as well: after a question to a file that is not there, a question that
finds an empty list of concepts, and the loss of the file, the concepts are still listed, and there are none. -/
theorem list_after_empty_load :
    let content := "concepts: []\n".toUTF8
    KnowledgeBase.load none = .error (.unusable .missing) ∧ KnowledgeBase.load (some content) = .ok [] ∧
      ∃ log, (World.run "config" ⟨none, .fresh⟩ ([.list, .write content, .knowledgeBase, .delete] ++
        .list :: [.newDesk])).1[4]? = some (.headings [], log) := by
  intro content
  have hload : KnowledgeBase.load (some content) = .ok [] := KnowledgeBase.load_of_toOption (by decide +kernel)
  refine ⟨rfl, hload, ?_⟩
  have hasked : Unloaded none [.list] := (unloaded_nil none).snoc fun _ ↦ ⟨_, rfl⟩
  have hunloaded : Unloaded none [.list, .write content] :=
    hasked.snoc fun hquestion ↦ absurd hquestion Bool.false_ne_true
  obtain ⟨reply, log, next, hreply, -, -, -, -, hloaded, -⟩ :=
    reply_of_run "config" none [.list, .write content, .knowledgeBase, .delete] .list [.newDesk]
  have hlist := (hloaded [] ⟨[.list, .write content], .knowledgeBase, [.delete], rfl, rfl, by simp,
    hunloaded, hload⟩).1 rfl
  rw [hlist] at hreply
  exact ⟨log, hreply⟩

end WorkerAdvisor.Concept
