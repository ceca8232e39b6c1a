import ShellPages.Source.Chain

/-!
# Sources of any kind

The sources of a chain need not be those of `Source`. All that a chain knows of a source is its name
and what it does when it is asked, which may be anything that a monad can express: it may keep a
state, look at files or answer differently each time. `AnySource` has such sources and chains of
them, nested to any depth.

A chain asks its sources one after the other (`firstOf`). This is associative, so that the chains
among its members can be left out: the flat chain of the leaves has the same text and does the same
on the way (`ask_flattened`). It answers with the names of the leaves. If each leaf has the name of
the member that it stands below, the answer is the same altogether (`askFlat_namedLeaves`).
-/

namespace ShellPages

/-! ## One after the other -/

section FirstOf

variable {m : Type → Type} [Monad m] {α β : Type}

/-- The outcome of the first of two actions, or else of the second, which is then carried out. -/
def firstOf (x y : m (Option α)) : m (Option α) := do
  match ← x with
  | some a => pure (some a)
  | none => y

variable [LawfulMonad m]

@[simp] theorem firstOf_none (y : m (Option α)) : firstOf (pure none) y = y := by
  simp [firstOf]

theorem none_of_firstOf (x : m (Option α)) : firstOf x (pure none) = x := by
  have hsame : ∀ found : Option α,
      (match found with | some a => pure (some a) | none => pure none : m (Option α)) =
        pure found := by
    rintro (_ | a) <;> rfl
  simp only [firstOf, hsame, bind_pure]

theorem firstOf_assoc (x y z : m (Option α)) :
    firstOf (firstOf x y) z = firstOf x (firstOf y z) := by
  simp only [firstOf, bind_assoc]
  refine bind_congr fun found => ?_
  cases found with
  | none => rfl
  | some a => rw [pure_bind]

theorem map_firstOf (f : α → β) (x y : m (Option α)) :
    Option.map f <$> firstOf x y = firstOf (Option.map f <$> x) (Option.map f <$> y) := by
  simp only [firstOf, map_bind, bind_map_left]
  refine bind_congr fun found => ?_
  cases found with
  | none => rfl
  | some a => rw [map_pure]; rfl

end FirstOf

/-! ## Sources of any kind -/

/-- A source that does what it likes when it is asked. -/
structure Respondent (m : Type → Type) where
  name : String
  answer : Construct → Option Construct → m (Option String)

/-- A source of any kind: a respondent or a chain. -/
inductive AnySource (m : Type → Type) where
  | own (respondent : Respondent m)
  | nested (members : List (AnySource m))

namespace AnySource

section

variable {m : Type → Type}

/-- The name of a source in reports. -/
def name : AnySource m → String
  | own respondent => respondent.name
  | nested _ => Source.chainName

mutual

/-- The respondents at and below a source, from left to right. -/
def leaves : AnySource m → List (Respondent m)
  | own respondent => [respondent]
  | nested members => leavesOf members

/-- The respondents at and below sources, from left to right. -/
def leavesOf : List (AnySource m) → List (Respondent m)
  | [] => []
  | source :: rest => source.leaves ++ leavesOf rest

end

/-- The respondents at and below the members of a chain, each under the name of the member. -/
def namedLeaves (members : List (AnySource m)) : List (Respondent m) :=
  members.flatMap fun source => source.leaves.map fun leaf => { leaf with name := source.name }

variable [Monad m] (element : Construct) (asWritten : Option Construct)

mutual

/-- Ask a source. -/
def ask : AnySource m → m (Option String)
  | own respondent => respondent.answer element asWritten
  | nested members => Option.map Prod.snd <$> askEach members

/-- Ask sources in order until one answers. The answer is the name of that source and its text. -/
def askEach : List (AnySource m) → m (Option (String × String))
  | [] => pure none
  | source :: rest => firstOf (Option.map (Prod.mk source.name) <$> ask source) (askEach rest)

end

/-- Ask respondents in order until one answers. -/
def askFlat (leaves : List (Respondent m)) : m (Option (String × String)) :=
  askEach element asWritten (leaves.map own)

end

variable {m : Type → Type} [Monad m] [LawfulMonad m] {element : Construct}
  {asWritten : Option Construct}

theorem askFlat_append (xs ys : List (Respondent m)) :
    askFlat element asWritten (xs ++ ys) =
      firstOf (askFlat element asWritten xs) (askFlat element asWritten ys) := by
  induction xs with
  | nil => exact (firstOf_none _).symm
  | cons x xs ih =>
    rw [askFlat] at ih ⊢
    rw [List.cons_append, List.map_cons, askEach, ih, ← firstOf_assoc]
    rfl

/-- Names beside the texts do not matter to which text is found. -/
theorem map_snd_askEach_cons (source : AnySource m) (rest : List (AnySource m)) :
    Option.map Prod.snd <$> askEach element asWritten (source :: rest) =
      firstOf (ask element asWritten source)
        (Option.map Prod.snd <$> askEach element asWritten rest) := by
  rw [askEach, map_firstOf, Functor.map_map]
  simp [Function.comp_def]

mutual

/-- A source does what its leaves do one after the other, up to the first that answers. -/
theorem map_snd_askFlat_leaves : ∀ source : AnySource m,
    Option.map Prod.snd <$> askFlat element asWritten source.leaves = ask element asWritten source
  | own respondent => by
    rw [leaves, askFlat, List.map_singleton, map_snd_askEach_cons, askEach, map_pure]
    exact none_of_firstOf _
  | nested members => by
    rw [leaves, ask, map_snd_askFlat_leavesOf members]

/-- Sources do what their leaves do one after the other, up to the first that answers. -/
theorem map_snd_askFlat_leavesOf : ∀ members : List (AnySource m),
    Option.map Prod.snd <$> askFlat element asWritten (leavesOf members) =
      Option.map Prod.snd <$> askEach element asWritten members
  | [] => rfl
  | source :: rest => by
    rw [leavesOf, askFlat_append, map_firstOf, map_snd_askFlat_leaves source,
      map_snd_askFlat_leavesOf rest, map_snd_askEach_cons]

end

/-- Under one and the same name, respondents answer with that name. -/
theorem askFlat_renamed (name : String) (leaves : List (Respondent m)) :
    askFlat element asWritten (leaves.map fun leaf => { leaf with name := name }) =
      Option.map (Prod.mk name) <$> Option.map Prod.snd <$> askFlat element asWritten leaves := by
  induction leaves with
  | nil => simp [askFlat, askEach]
  | cons leaf rest ih =>
    rw [askFlat] at ih ⊢
    rw [List.map_cons, List.map_cons, askEach, ih, askFlat, askFlat, List.map_cons,
      map_snd_askEach_cons, map_firstOf]
    rfl

/-- Asking sources is asking their leaves, where each answers with the name of its source. -/
theorem askFlat_namedLeaves (members : List (AnySource m)) :
    askFlat element asWritten (namedLeaves members) = askEach element asWritten members := by
  induction members with
  | nil => rfl
  | cons source rest ih =>
    rw [namedLeaves] at ih ⊢
    rw [List.flatMap_cons, askFlat_append, ih, askFlat_renamed, map_snd_askFlat_leaves, askEach]

/-- A chain and the flat chain of its leaves have the same text, found in the same way. -/
theorem ask_flattened (members : List (AnySource m)) :
    ask element asWritten (nested ((leavesOf members).map own)) =
      ask element asWritten (nested members) := by
  rw [ask, ask]
  exact map_snd_askFlat_leavesOf members

end AnySource

end ShellPages
