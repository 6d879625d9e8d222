import LiveTemplates.Engine.Basic

set_option autoImplicit false

/-! # Engines at work

A session is an engine and the world it works in. One operation follows the other: the engine is
asked for something, or the world changes. What the engine answers is not kept here; it is found by
asking after the operations that went before. -/

namespace LiveTemplates

/-- Whatever can happen to an engine and the world around it. -/
inductive Operation where
  | template (spelling : String)
  | resource (spelling : String)
  | hasResource (spelling : String)
  /-- A template is looked up again under its own name. -/
  | refresh (template : LiveTemplate)
  | compileLoose (source : String)
  | clear
  | insert (store : Nat) (spelling content : String)
  | insertMarked (store : Nat) (spelling content : String) (fingerprint : Fingerprint)
  | remove (store : Nat) (spelling : String)
  /-- Anything else that happens to the world. -/
  | change (alter : World → World)

/-- An engine and the world it works in. -/
structure Session where
  engine : Engine
  world : World

namespace Session

/-- Look a template up. -/
def template (session : Session) (spelling : String) :
    Session × Except TemplateError LiveTemplate :=
  let (engine, world, outcome) := session.engine.template session.world spelling
  (⟨engine, world⟩, outcome)

/-- Put a store in place of the one with a number. -/
def setStore (session : Session) (index : Nat) (store : MemoryStore) : Session :=
  { session with world := session.world.setStore index store }

/-- What an operation does. A template without a name is not looked up again, and the template of
another engine is looked up there. -/
def perform (session : Session) : Operation → Session
  | .template spelling => (session.template spelling).1
  | .resource spelling =>
    { session with engine := (session.engine.resource session.world spelling).1 }
  | .hasResource spelling =>
    { session with engine := (session.engine.hasResource session.world spelling).1 }
  | .refresh template =>
    match template.name with
    | none => session
    | some name =>
      if template.engine = session.engine.number then (session.template name).1 else session
  | .compileLoose source =>
    let (engine, world, _) := session.engine.compileLoose session.world source
    ⟨engine, world⟩
  | .clear => { session with engine := session.engine.clear }
  | .insert index spelling content =>
    session.setStore index ((session.world.store index).insert spelling content).1
  | .insertMarked index spelling content fingerprint =>
    session.setStore index
      ((session.world.store index).insertMarked spelling content fingerprint).1
  | .remove index spelling =>
    session.setStore index ((session.world.store index).remove spelling).1
  | .change alter => { session with world := alter session.world }

/-- What operations do one after the other. -/
def run (session : Session) (operations : List Operation) : Session :=
  operations.foldl perform session

/-- The worlds that operations go through, the first and the last included. -/
def worlds (session : Session) : List Operation → List World
  | [] => [session.world]
  | operation :: rest => session.world :: worlds (session.perform operation) rest

theorem run_append (session : Session) (first second : List Operation) :
    session.run (first ++ second) = (session.run first).run second := by
  unfold run
  rw [List.foldl_append]

theorem run_append_singleton (session : Session) (operations : List Operation)
    (operation : Operation) :
    session.run (operations ++ [operation]) = (session.run operations).perform operation := by
  rw [run_append]
  rfl

theorem worlds_append_singleton (session : Session) (operations : List Operation)
    (operation : Operation) :
    session.worlds (operations ++ [operation])
      = session.worlds operations ++ [(session.run (operations ++ [operation])).world] := by
  induction operations generalizing session with
  | nil => rfl
  | cons first rest ih =>
      show session.world :: worlds (session.perform first) (rest ++ [operation]) = _
      rw [ih]
      rfl

/-- The last of the worlds is the one that the operations lead to. -/
theorem exists_worlds_eq (session : Session) (operations : List Operation) :
    ∃ past, session.worlds operations = past ++ [(session.run operations).world] := by
  induction operations generalizing session with
  | nil => exact ⟨[], rfl⟩
  | cons first rest ih =>
      obtain ⟨past, hpast⟩ := ih (session.perform first)
      exact ⟨session.world :: past, congrArg (session.world :: ·) hpast⟩

theorem world_mem_worlds (session : Session) (operations : List Operation) :
    (session.run operations).world ∈ session.worlds operations := by
  obtain ⟨past, hpast⟩ := session.exists_worlds_eq operations
  rw [hpast]
  exact List.mem_append_right _ (List.mem_singleton_self _)

end Session

end LiveTemplates
