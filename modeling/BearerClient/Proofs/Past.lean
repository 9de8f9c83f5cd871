import BearerClient.Proofs.HeldSession

/-!
# The past of a run

Some facts about a run are about what was the case earlier: which sessions the store has held, and
which cycles have run over the refusal of which token. A gateway does not remember this, so it is
kept as a `Past` beside it, which every step extends (`pastOf_concat`). What the steps keep of a
gateway together with its past holds at the end of the run (`run_past`).
-/

namespace BearerClient

/-- An element of a longer list is its last one, or one of those before it. -/
theorem concat_eq_append_cons {α : Type} {before first later : List α} {a b : α} :
    before ++ [a] = first ++ b :: later ↔
      (first = before ∧ b = a ∧ later = []) ∨
        ∃ rest, later = rest ++ [a] ∧ before = first ++ b :: rest := by
  constructor
  · intro h
    rcases List.eq_nil_or_concat later with rfl | ⟨rest, last, rfl⟩
    · obtain ⟨rfl, hlast⟩ := List.append_inj' h rfl
      obtain rfl : a = b := List.singleton_inj.mp hlast
      exact .inl ⟨rfl, rfl, rfl⟩
    · rw [List.concat_eq_append, ← List.cons_append, ← List.append_assoc] at h
      obtain ⟨hbefore, hlast⟩ := List.append_inj' h rfl
      obtain rfl : a = last := List.singleton_inj.mp hlast
      exact .inr ⟨rest, List.concat_eq_append, hbefore⟩
  · rintro (⟨rfl, rfl, rfl⟩ | ⟨rest, rfl, rfl⟩)
    · rfl
    · simp

namespace Gateway

section Along

variable {σ : Type} [Store σ]

/-- What holds of each step of a run, with the gateway as it is before the step. -/
def Along (g : Gateway σ) (actions : List (Action σ)) (P : Gateway σ → Action σ → Prop) : Prop :=
  ∀ before a later, actions = before ++ a :: later → P (g.run before) a

variable {g : Gateway σ} {a : Action σ} {before later : List (Action σ)}
  {P : Gateway σ → Action σ → Prop}

theorem along_nil : g.Along [] P := by
  intro before a later hactions
  simp at hactions

theorem Along.cons (hhead : P g a) (htail : (g.step a).Along later P) : g.Along (a :: later) P := by
  intro before b rest hactions
  cases before with
  | nil =>
    obtain ⟨rfl, -⟩ := List.cons.inj hactions
    exact hhead
  | cons first before =>
    obtain ⟨rfl, hlater⟩ := List.cons.inj hactions
    exact htail before b rest hlater

theorem Along.head (h : g.Along (a :: later) P) : P g a := h [] a later rfl

theorem Along.tail (h : g.Along (a :: later) P) : (g.step a).Along later P := by
  rintro first b rest rfl
  exact h (a :: first) b rest rfl

theorem Along.append (h : g.Along before P) (hlater : (g.run before).Along later P) :
    g.Along (before ++ later) P := by
  induction before generalizing g with
  | nil => exact hlater
  | cons a before ih => exact .cons h.head (ih h.tail hlater)

theorem Along.left (h : g.Along (before ++ later) P) : g.Along before P := by
  rintro first b rest rfl
  exact h first b (rest ++ later) (by simp)

theorem Along.right (h : g.Along (before ++ later) P) : (g.run before).Along later P := by
  rintro first b rest rfl
  rw [← run_append]
  exact h (before ++ first) b rest (by simp)

end Along

variable {σ : Type} [Store σ] [LawfulStore σ]

/-- What has been so far. -/
structure Past where
  /-- The sessions that the store has held. -/
  sessions : Session → Prop
  /-- The cycles that have run, each with the access token whose refusal started it. -/
  cycles : Nat → String → Prop

/-- The past of a gateway that a step has led to. -/
def Past.upTo (past : Past) (g : Gateway σ) : Past where
  sessions s := past.sessions s ∨ g.current = some s
  cycles number token := past.cycles number token ∨
    ∃ cycle ∈ g.coordinator.cycles, cycle.number = number ∧ cycle.rejected = token

/-- What was the case at some time of a run. -/
def Sometime (g : Gateway σ) (actions : List (Action σ)) (P : Gateway σ → Prop) : Prop :=
  ∃ before later, actions = before ++ later ∧ P (g.run before)

/-- The store has held the session at some time of a run. -/
def HeldIn (g : Gateway σ) (actions : List (Action σ)) (s : Session) : Prop :=
  g.Sometime actions fun g => g.current = some s

/-- A cycle that was started over the refusal of a token has run at some time of a run. -/
def RanIn (g : Gateway σ) (actions : List (Action σ)) (number : Nat) (token : String) : Prop :=
  g.Sometime actions fun g =>
    ∃ cycle ∈ g.coordinator.cycles, cycle.number = number ∧ cycle.rejected = token

omit [LawfulStore σ] in
theorem sometime_nil {g : Gateway σ} {P : Gateway σ → Prop} : g.Sometime [] P ↔ P g := by
  constructor
  · rintro ⟨before, later, hactions, h⟩
    obtain ⟨rfl, -⟩ := List.append_eq_nil_iff.mp hactions.symm
    exact h
  · intro h
    exact ⟨[], [], rfl, h⟩

omit [LawfulStore σ] in
/-- What was the case at some time of a longer run was so before its last step, or is so now. -/
theorem sometime_concat {g : Gateway σ} {before : List (Action σ)} {a : Action σ}
    {P : Gateway σ → Prop} :
    g.Sometime (before ++ [a]) P ↔ g.Sometime before P ∨ P ((g.run before).step a) := by
  constructor
  · rintro ⟨first, later, hactions, h⟩
    rcases List.eq_nil_or_concat later with rfl | ⟨later', last, rfl⟩
    · rw [List.append_nil] at hactions
      subst hactions
      rw [run_concat] at h
      exact .inr h
    · rw [List.concat_eq_append, ← List.append_assoc] at hactions
      obtain ⟨hbefore, -⟩ := List.append_inj' hactions rfl
      exact .inl ⟨first, later', hbefore, h⟩
  · rintro (⟨first, later, rfl, h⟩ | h)
    · exact ⟨first, later ++ [a], List.append_assoc .., h⟩
    · exact ⟨before ++ [a], [], (List.append_nil _).symm, by rwa [run_concat]⟩

omit [LawfulStore σ] in
theorem Sometime.concat {g : Gateway σ} {before : List (Action σ)} {P : Gateway σ → Prop}
    (h : g.Sometime before P) (a : Action σ) : g.Sometime (before ++ [a]) P :=
  sometime_concat.mpr (.inl h)

/-- What happened in some step of a run, with the gateway as it was before the step. -/
def Happened (g : Gateway σ) (actions : List (Action σ)) (P : Gateway σ → Action σ → Prop) : Prop :=
  ∃ before a later, actions = before ++ a :: later ∧ P (g.run before) a

omit [LawfulStore σ] in
/-- What happened in a longer run happened before its last step, or in it. -/
theorem happened_concat {g : Gateway σ} {before : List (Action σ)} {a : Action σ}
    {P : Gateway σ → Action σ → Prop} :
    g.Happened (before ++ [a]) P ↔ g.Happened before P ∨ P (g.run before) a := by
  constructor
  · rintro ⟨first, b, later, hactions, h⟩
    rcases concat_eq_append_cons.mp hactions with ⟨rfl, rfl, -⟩ | ⟨rest, -, rfl⟩
    · exact .inr h
    · exact .inl ⟨first, b, rest, rfl, h⟩
  · rintro (⟨first, b, later, rfl, h⟩ | h)
    · exact ⟨first, b, later ++ [a], by simp, h⟩
    · exact ⟨before, a, [], rfl, h⟩

omit [LawfulStore σ] in
theorem Happened.append {g : Gateway σ} {before : List (Action σ)}
    {P : Gateway σ → Action σ → Prop} (h : g.Happened before P) (later : List (Action σ)) :
    g.Happened (before ++ later) P := by
  obtain ⟨first, a, rest, rfl, h⟩ := h
  exact ⟨first, a, rest ++ later, by simp, h⟩

omit [LawfulStore σ] in
theorem Happened.concat {g : Gateway σ} {before : List (Action σ)}
    {P : Gateway σ → Action σ → Prop} (h : g.Happened before P) (a : Action σ) :
    g.Happened (before ++ [a]) P :=
  h.append [a]

/-- Whether an action answers the request of a cycle. -/
def Action.isRefreshReply {σ : Type} : Action σ → Bool
  | .deliverRefresh _ _ => true
  | _ => false

/-- The steps before one of a kind that comes at one place only. -/
theorem eq_take_of_place {α : Type} {actions before later : List α} {a : α} (kind : α → Bool)
    (place : Nat) (hplace : ∀ n < actions.length, (actions.map kind)[n]? = some true → n = place)
    (hactions : actions = before ++ a :: later) (ha : kind a = true) :
    before = actions.take place := by
  have hlength : before.length < actions.length := by
    rw [hactions, List.length_append, List.length_cons]
    omega
  have hbefore : before.length = place := by
    refine hplace before.length hlength ?_
    rw [hactions]
    simp [ha]
  rw [← hbefore, hactions, List.take_left]

/-- The past of a run. -/
def pastOf (g : Gateway σ) (actions : List (Action σ)) : Past := ⟨g.HeldIn actions, g.RanIn actions⟩

theorem sessions_pastOf_nil {g : Gateway σ} {s : Session} :
    (g.pastOf []).sessions s ↔ g.current = some s := by
  show g.HeldIn [] s ↔ _
  unfold HeldIn
  rw [sometime_nil]

theorem cycles_pastOf_nil {g : Gateway σ} {number : Nat} {token : String} :
    (g.pastOf []).cycles number token ↔
      ∃ cycle ∈ g.coordinator.cycles, cycle.number = number ∧ cycle.rejected = token := by
  show g.RanIn [] number token ↔ _
  unfold RanIn
  rw [sometime_nil]

theorem pastOf_concat (g : Gateway σ) (before : List (Action σ)) (a : Action σ) :
    g.pastOf (before ++ [a]) = (g.pastOf before).upTo ((g.run before).step a) := by
  unfold pastOf Past.upTo
  congr 1
  · funext s
    exact propext sometime_concat
  · funext number token
    exact propext sometime_concat

/-- What holds at the start of a run and is kept by each of its steps, with the past until then,
holds at its end. -/
theorem run_past {P : Past → Gateway σ → Prop} {g : Gateway σ} {actions : List (Action σ)}
    (hstart : P (g.pastOf []) g)
    (hstep : ∀ before a later, actions = before ++ a :: later →
      P (g.pastOf before) (g.run before) →
      P ((g.pastOf before).upTo ((g.run before).step a)) ((g.run before).step a)) :
    P (g.pastOf actions) (g.run actions) := by
  have hrest : ∀ later before, actions = before ++ later → P (g.pastOf before) (g.run before) →
      P (g.pastOf actions) (g.run actions) := by
    intro later
    induction later with
    | nil =>
      intro before hactions h
      rw [List.append_nil] at hactions
      rw [hactions]
      exact h
    | cons a later ih =>
      intro before hactions h
      refine ih (before ++ [a]) (by rw [hactions, List.append_assoc]; rfl) ?_
      rw [pastOf_concat, run_concat]
      exact hstep before a later hactions h
  exact hrest actions [] rfl hstart

end Gateway

end BearerClient
