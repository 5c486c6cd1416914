import CallAtlas.Services.Recorded

set_option autoImplicit false
set_option relaxedAutoImplicit false

/-!
What becomes of planned events under a behaviour: they happen in order, and the first call that
fails is the last event.  A row of calls of one kind either fails somewhere or gets all its
answers.
-/

namespace CallAtlas

def Tool.fault? {α : Type} : Except Tool.Error α → Option Tool.Error
  | .ok _ => none
  | .error error => some error

theorem Tool.fault?_eq_some {α : Type} {answer : Except Tool.Error α} {error : Tool.Error} :
    fault? answer = some error ↔ answer = .error error := by
  cases answer <;> simp [fault?]

/-- Calls are put to collaborators; the other events are about the scratch space. -/
def Event.isCall : Event → Bool
  | .search _ _ | .tag _ | .build _ _ _ | .query _ _ => true
  | .create _ | .write _ _ | .remove _ => false

namespace Behaviour

/-- The failure of an event after the events before it; only calls can fail. -/
def fault? (behaviour : Behaviour) (history : List Event) : Event → Option Tool.Error
  | .search pattern root => Tool.fault? (behaviour.search history pattern root)
  | .tag file => Tool.fault? (behaviour.tag history file)
  | .build _ _ listing => Tool.fault? (behaviour.build history listing)
  | .query _ function => Tool.fault? (behaviour.query history function)
  | .create _ | .write _ _ | .remove _ => none

/-- The events after planned ones have happened up to the first failure, and that failure. -/
def perform (behaviour : Behaviour) (history : List Event) :
    List Event → List Event × Option Tool.Error
  | [] => (history, none)
  | event :: rest =>
    match behaviour.fault? history event with
    | some error => (history ++ [event], some error)
    | none => perform behaviour (history ++ [event]) rest

/-- Every question of a row gets its answer, each after the events of those before it. -/
def Answered {α β : Type} (ask : List Event → α → Except Tool.Error β) (event : α → Event)
    (history : List Event) (answers : List (α × β)) : Prop :=
  ∀ done question answer rest, answers = done ++ (question, answer) :: rest →
    ask (history ++ done.map fun known => event known.1) question = .ok answer

theorem perform_cons_of_fault {behaviour : Behaviour} {history : List Event} {event : Event}
    {error : Tool.Error} (h : behaviour.fault? history event = some error) (rest : List Event) :
    behaviour.perform history (event :: rest) = (history ++ [event], some error) := by
  rw [perform, h]

theorem perform_cons {behaviour : Behaviour} {history : List Event} {event : Event}
    (h : behaviour.fault? history event = none) (rest : List Event) :
    behaviour.perform history (event :: rest) =
      behaviour.perform (history ++ [event]) rest := by
  rw [perform, h]

theorem perform_append_of_fault {behaviour : Behaviour} {history first : List Event}
    {error : Tool.Error} (h : (behaviour.perform history first).2 = some error)
    (second : List Event) :
    behaviour.perform history (first ++ second) = behaviour.perform history first := by
  induction first generalizing history with
  | nil => cases h
  | cons event rest ih =>
    rw [List.cons_append]
    cases fault : behaviour.fault? history event with
    | some _ => rw [perform_cons_of_fault fault, perform_cons_of_fault fault]
    | none =>
      rw [perform_cons fault] at h ⊢
      rw [perform_cons fault, ih h]

theorem perform_eq {behaviour : Behaviour} {history plan : List Event}
    (h : (behaviour.perform history plan).2 = none) :
    behaviour.perform history plan = (history ++ plan, none) := by
  induction plan generalizing history with
  | nil => simp [perform]
  | cons event rest ih =>
    cases fault : behaviour.fault? history event with
    | some _ =>
      rw [perform_cons_of_fault fault] at h
      cases h
    | none =>
      rw [perform_cons fault] at h ⊢
      simp [ih h]

theorem perform_append {behaviour : Behaviour} {history first : List Event}
    (h : (behaviour.perform history first).2 = none) (second : List Event) :
    behaviour.perform history (first ++ second) =
      behaviour.perform (history ++ first) second := by
  induction first generalizing history with
  | nil => simp
  | cons event rest ih =>
    rw [List.cons_append]
    cases fault : behaviour.fault? history event with
    | some _ =>
      rw [perform_cons_of_fault fault] at h
      cases h
    | none =>
      rw [perform_cons fault] at h ⊢
      rw [ih h, List.append_assoc, List.singleton_append]

theorem perform_prefix (behaviour : Behaviour) (history plan : List Event) :
    ∃ happened, happened <+: plan ∧ (behaviour.perform history plan).1 = history ++ happened := by
  induction plan generalizing history with
  | nil => exact ⟨[], List.prefix_rfl, (List.append_nil history).symm⟩
  | cons event rest ih =>
    cases fault : behaviour.fault? history event with
    | some error =>
      rw [perform_cons_of_fault fault]
      exact ⟨[event], ⟨rest, rfl⟩, rfl⟩
    | none =>
      obtain ⟨happened, first, same⟩ := ih (history ++ [event])
      rw [perform_cons fault, same, List.append_assoc]
      exact ⟨event :: happened, List.cons_prefix_cons.mpr ⟨rfl, first⟩, rfl⟩

theorem perform_congr {behaviour other : Behaviour}
    (alike : ∀ history history' event,
      behaviour.fault? history event = other.fault? history' event)
    (history history' plan : List Event) :
    ∃ happened failure, behaviour.perform history plan = (history ++ happened, failure) ∧
      other.perform history' plan = (history' ++ happened, failure) := by
  induction plan generalizing history history' with
  | nil => exact ⟨[], none, by simp [perform], by simp [perform]⟩
  | cons event rest ih =>
    have same := alike history history' event
    cases fault : behaviour.fault? history event with
    | some error =>
      rw [fault] at same
      exact ⟨[event], some error, perform_cons_of_fault fault rest,
        perform_cons_of_fault same.symm rest⟩
    | none =>
      rw [fault] at same
      obtain ⟨happened, failure, first, second⟩ := ih (history ++ [event]) (history' ++ [event])
      refine ⟨event :: happened, failure, ?_, ?_⟩
      · rw [perform_cons fault, first, List.append_assoc, List.singleton_append]
      · rw [perform_cons same.symm, second, List.append_assoc, List.singleton_append]

variable {α β : Type} {ask : List Event → α → Except Tool.Error β} {event : α → Event}
  {history : List Event}

theorem answered_nil : Answered ask event history [] := by
  intro done question answer rest split
  cases done <;> cases split

theorem answered_cons {question : α} {answer : β} {rest : List (α × β)} :
    Answered ask event history ((question, answer) :: rest) ↔
      ask history question = .ok answer ∧ Answered ask event (history ++ [event question]) rest := by
  constructor
  · intro all
    refine ⟨by simpa using all [] question answer rest rfl, ?_⟩
    intro done other known later split
    have next := all ((question, answer) :: done) other known later (by rw [split, List.cons_append])
    simpa using next
  · rintro ⟨first, others⟩ done other known later split
    cases done with
    | nil =>
      obtain ⟨⟨rfl, rfl⟩, rfl⟩ := by simpa using split
      simpa using first
    | cons head tail =>
      obtain ⟨rfl, equal⟩ := List.cons.inj split
      simpa using others tail other known later equal

theorem Answered.unique {ask' : List Event → α → Except Tool.Error β} {event' : α → Event}
    {history' : List Event} {answers others : List (α × β)}
    (steady : ∀ history history' question, ask history question = ask' history' question)
    (h : Answered ask event history answers) (k : Answered ask' event' history' others)
    (same : answers.map Prod.fst = others.map Prod.fst) : answers = others := by
  induction answers generalizing others history history' with
  | nil => simpa using same
  | cons head rest ih =>
    obtain ⟨question, answer⟩ := head
    cases others with
    | nil => cases same
    | cons head' rest' =>
      obtain ⟨question', answer'⟩ := head'
      obtain ⟨rfl, tails⟩ := List.cons.inj same
      obtain ⟨first, later⟩ := answered_cons.mp h
      obtain ⟨first', later'⟩ := answered_cons.mp k
      rw [steady history history' question] at first
      obtain rfl := Except.ok.inj (first.symm.trans first')
      rw [ih later later' tails]

theorem answered_map {γ : Type} (item : γ → α) {answers : List (γ × β)} :
    Answered ask event history (answers.map fun known => (item known.1, known.2)) ↔
      Answered (fun history other => ask history (item other)) (fun other => event (item other))
        history answers := by
  induction answers generalizing history with
  | nil => exact ⟨fun _ => answered_nil, fun _ => answered_nil⟩
  | cons head rest ih => rw [List.map_cons, answered_cons, answered_cons, ih]

variable {behaviour : Behaviour}

def Calls (behaviour : Behaviour) (ask : List Event → α → Except Tool.Error β)
    (event : α → Event) : Prop :=
  ∀ history question,
    behaviour.fault? history (event question) = Tool.fault? (ask history question)

theorem calls_tag (behaviour : Behaviour) : behaviour.Calls behaviour.tag .tag := fun _ _ => rfl

theorem calls_query (behaviour : Behaviour) (workdir : Path) :
    behaviour.Calls behaviour.query (.query workdir) := fun _ _ => rfl

theorem perform_answered (calls : behaviour.Calls ask event) {answers : List (α × β)}
    (h : Answered ask event history answers) :
    (behaviour.perform history (answers.map fun known => event known.1)).2 = none := by
  induction answers generalizing history with
  | nil => rfl
  | cons head rest ih =>
    obtain ⟨question, answer⟩ := head
    obtain ⟨first, others⟩ := answered_cons.mp h
    have passes : behaviour.fault? history (event question) = none := by
      rw [calls, first]
      rfl
    rw [List.map_cons, perform_cons passes]
    exact ih others

theorem exists_answered (calls : behaviour.Calls ask event) {questions : List α}
    (h : (behaviour.perform history (questions.map event)).2 = none) :
    ∃ answers, answers.map Prod.fst = questions ∧ Answered ask event history answers := by
  induction questions generalizing history with
  | nil => exact ⟨[], rfl, answered_nil⟩
  | cons question rest ih =>
    have first := calls history question
    cases reply : ask history question with
    | error error =>
      rw [reply] at first
      rw [List.map_cons, perform_cons_of_fault first] at h
      cases h
    | ok answer =>
      rw [reply] at first
      rw [List.map_cons, perform_cons first] at h
      obtain ⟨answers, equal, others⟩ := ih h
      exact ⟨(question, answer) :: answers, by rw [List.map_cons, equal],
        answered_cons.mpr ⟨reply, others⟩⟩

/-- A loop asks about one item after the other, uses each answer and stops at a failure. -/
structure Loop {σ : Type} (ask : List Event → α → Except Tool.Error β) (event : α → Event)
    (use : σ → α → β → σ) (loop : σ → List α → StateM Session (Except Tool.Error σ)) :
    Prop where
  done : ∀ state session, (loop state []).run session = (.ok state, session)
  stop : ∀ {session : Session} {question error}, ask session.journal question = .error error →
    ∀ state rest, (loop state (question :: rest)).run session =
      (.error error, session.note (event question))
  next : ∀ {session : Session} {question answer}, ask session.journal question = .ok answer →
    ∀ state rest, (loop state (question :: rest)).run session =
      (loop (use state question answer) rest).run (session.note (event question))

namespace Loop

variable {σ : Type} {use : σ → α → β → σ}
  {loop : σ → List α → StateM Session (Except Tool.Error σ)}

/-- The events of a loop are its row of calls, up to the first failure. -/
theorem run_eq (h : Loop ask event use loop) (calls : behaviour.Calls ask event) (state : σ)
    (questions : List α) (session : Session) :
    ∃ result, (loop state questions).run session =
        (result, { session with
          journal := (behaviour.perform session.journal (questions.map event)).1 }) ∧
      Tool.fault? result = (behaviour.perform session.journal (questions.map event)).2 := by
  induction questions generalizing state session with
  | nil => exact ⟨.ok state, h.done state session, rfl⟩
  | cons question rest ih =>
    have first := calls session.journal question
    rw [List.map_cons]
    cases reply : ask session.journal question with
    | error error =>
      rw [reply] at first
      rw [perform_cons_of_fault first]
      exact ⟨.error error, h.stop reply state rest, rfl⟩
    | ok answer =>
      rw [reply] at first
      rw [perform_cons first, h.next reply]
      exact ih _ (session.note (event question))

theorem run_answered (h : Loop ask event use loop) {answers : List (α × β)} {session : Session}
    (answered : Answered ask event session.journal answers) (state : σ) :
    ((loop state (answers.map Prod.fst)).run session).1 =
      .ok (answers.foldl (fun state known => use state known.1 known.2) state) := by
  induction answers generalizing state session with
  | nil => rw [List.map_nil, h.done]; rfl
  | cons head rest ih =>
    obtain ⟨question, answer⟩ := head
    obtain ⟨first, others⟩ := answered_cons.mp answered
    rw [List.map_cons, h.next first, List.foldl_cons]
    exact ih others _

end Loop

end Behaviour

end CallAtlas
