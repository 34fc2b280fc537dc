import FormRules.Proofs.Resolution
import FormRules.Proofs.Segments

/-!
# Walks in two parts

A walk along a path reads one place after the other, each the entry of a mapping or the attribute of
anything else, up to the first fault. A walk along two paths that are joined by a point goes along
the first, and then from the value that it reaches along the second; if the first part meets a fault,
the second part is not read at all.
-/

namespace FormRules.Value

/-- A walk from a value along a path: what is read, each reading by its place and the name that is
read there, and how the walk ends. -/
inductive Walks : Value → List String → List (Value × String) → Except Fault Value → Prop
  | arrived (v : Value) : Walks v [] [] (.ok v)
  | stopped {v : Value} {name : String} {rest : List String} {fault : Fault} (step : v.step name = .error fault) :
      Walks v (name :: rest) [(v, name)] (.error fault)
  | onward {v next : Value} {name : String} {rest : List String} {readings : List (Value × String)}
      {result : Except Fault Value} (step : v.step name = .ok next) (later : Walks next rest readings result) :
      Walks v (name :: rest) ((v, name) :: readings) result

variable {v w : Value} {names others : List String} {readings more : List (Value × String)}
  {result : Except Fault Value} {fault : Fault}

theorem exists_walks (v : Value) (names : List String) : ∃ readings, v.Walks names readings (v.walk names) := by
  induction names generalizing v with
  | nil => exact ⟨[], .arrived v⟩
  | cons name rest ih =>
    rw [walk]
    cases step : v.step name with
    | error fault => exact ⟨_, .stopped step⟩
    | ok next =>
      obtain ⟨readings, later⟩ := ih next
      exact ⟨_, .onward step later⟩

/-- There is one walk along a path: nothing else is read on it, and it ends in no other way. -/
theorem Walks.unique {readings' : List (Value × String)} {result' : Except Fault Value}
    (walks : v.Walks names readings result) (walks' : v.Walks names readings' result') :
    readings' = readings ∧ result' = result := by
  induction walks generalizing readings' with
  | arrived v =>
    cases walks'
    exact ⟨rfl, rfl⟩
  | stopped step =>
    cases walks' with
    | stopped step' =>
      cases step.symm.trans step'
      exact ⟨rfl, rfl⟩
    | onward step' _ => cases step.symm.trans step'
  | onward step _ ih =>
    cases walks' with
    | stopped step' => cases step.symm.trans step'
    | onward step' later' =>
      cases step.symm.trans step'
      obtain ⟨rfl, rfl⟩ := ih later'
      exact ⟨rfl, rfl⟩

theorem Walks.walk (walks : v.Walks names readings result) : v.walk names = result := by
  obtain ⟨_, walked⟩ := exists_walks v names
  exact (walks.unique walked).2

/-- A walk that arrives goes on from there. -/
theorem Walks.append (first : v.Walks names readings (.ok w)) (second : w.Walks others more result) :
    v.Walks (names ++ others) (readings ++ more) result := by
  -- where the first walk ends is an index of it, so it is a variable for the induction
  generalize arrived : (Except.ok w : Except Fault Value) = reached at first
  induction first with
  | arrived v =>
    cases arrived
    exact second
  | stopped _ => cases arrived
  | onward step _ ih => exact .onward step (ih arrived)

/-- A walk that is stopped reads nothing of what the path goes on with. -/
theorem Walks.append_stopped (first : v.Walks names readings (.error fault)) (others : List String) :
    v.Walks (names ++ others) readings (.error fault) := by
  generalize stopped : (Except.error fault : Except Fault Value) = reached at first
  induction first with
  | arrived _ => cases stopped
  | stopped step => exact .stopped step
  | onward step _ ih => exact .onward step (ih stopped)

end FormRules.Value

namespace FormRules.Target

open Value (exists_walks)

/-- The steps of two paths that are joined by a point. -/
theorem steps_joined (p q : String) : steps (p ++ "." ++ q) = steps p ++ steps q :=
  Text.segments_append pathDelimiter p q

/-- What attributes answer is decided by how the walk along the key ends. -/
theorem resolve_of_walks {root : Value} {key : String} {readings : List (Value × String)}
    {result : Except Fault Value} (walks : root.Walks (steps key) readings result) :
    (Target.attributes root).resolve key = found absentFromPath result := by
  rw [resolve, walks.walk]

theorem found_error (fault : Fault) :
    found absentFromPath (.error fault) =
      if fault.kind = .attribute ∨ fault.kind = .key then .ok none else .error fault := by
  simp only [found, absentFromPath_iff]

/-- There is one walk along each key, and it decides the answer. Along two keys that are joined by a
point, the walk is that along the first, and from the value that it reaches that along the second,
which also gives the answer; but if the first is stopped, nothing further is read, and the answer is
none for a missing attribute or key and the fault itself for any other. -/
theorem resolve_joined_keys (root : Value) (p q : String) :
    (∀ key, ∃ readings result, root.Walks (steps key) readings result ∧
        (∀ readings' result', root.Walks (steps key) readings' result' → readings' = readings ∧ result' = result) ∧
        (Target.attributes root).resolve key = found absentFromPath result) ∧
      (∀ readings v, root.Walks (steps p) readings (.ok v) →
        (Target.attributes root).resolve (p ++ "." ++ q) = (Target.attributes v).resolve q ∧
          ∀ more result, v.Walks (steps q) more result →
            root.Walks (steps (p ++ "." ++ q)) (readings ++ more) result) ∧
      ∀ readings fault, root.Walks (steps p) readings (.error fault) →
        root.Walks (steps (p ++ "." ++ q)) readings (.error fault) ∧
          (Target.attributes root).resolve (p ++ "." ++ q) =
            if fault.kind = .attribute ∨ fault.kind = .key then .ok none else .error fault := by
  refine ⟨?_, ?_, ?_⟩
  · intro key
    obtain ⟨readings, walks⟩ := exists_walks root (steps key)
    exact ⟨readings, _, walks, fun _ _ walks' => walks.unique walks', resolve_of_walks walks⟩
  · intro readings v first
    have joined : ∀ more result, v.Walks (steps q) more result →
        root.Walks (steps (p ++ "." ++ q)) (readings ++ more) result := by
      intro more result second
      rw [steps_joined]
      exact first.append second
    obtain ⟨more, second⟩ := exists_walks v (steps q)
    refine ⟨?_, joined⟩
    rw [resolve_of_walks (joined _ _ second), resolve_of_walks second]
  · intro readings fault stopped
    have joined : root.Walks (steps (p ++ "." ++ q)) readings (.error fault) := by
      rw [steps_joined]
      exact stopped.append_stopped (steps q)
    exact ⟨joined, (resolve_of_walks joined).trans (found_error fault)⟩

theorem resolve_joined_keys_profile :
    (Target.attributes profile).resolve "address.city" = .ok (some "Leeds") ∧
      (Target.attributes profile).resolve "orders.first.date" = .ok none ∧
      (Target.attributes profile).resolve "orders.last.date" = .error ⟨.index, "list index out of range"⟩ := by
  have inside : profile.step "orders" = .ok orders := rfl
  obtain ⟨_, reached, _⟩ := resolve_joined_keys profile "address" "city"
  obtain ⟨_, _, first⟩ := resolve_joined_keys profile "orders.first" "date"
  obtain ⟨_, _, last⟩ := resolve_joined_keys profile "orders.last" "date"
  obtain ⟨city, _⟩ := reached _ (.map .plain [(.text "city", .text "Leeds")]) (.onward rfl (.arrived _))
  obtain ⟨_, absent⟩ := first _ _ (.onward inside (.stopped rfl))
  obtain ⟨_, raised⟩ := last _ _ (.onward inside (.stopped rfl))
  exact ⟨city.trans (by decide), absent, raised⟩

end FormRules.Target
