import ShellPages.Command.Task
import ShellPages.Config.Check

/-!
# Which configuration a run uses

A task of two parts has a value if both of them have one (`Task.result_bind_eq_ok_iff`). So a run
loads a configuration if it can be read from where it should come from (`Machine.Reads`) and is
valid, and stops otherwise: `Machine.result_loadConfig_eq_ok_iff`.
-/

namespace ShellPages

/-! ## Values of tasks -/

theorem bind_eq_ok_iff {ε α β : Type} {x : Except ε α} {f : α → Except ε β} {b : β} :
    x >>= f = .ok b ↔ ∃ a, x = .ok a ∧ f a = .ok b := by
  cases x <;> simp [bind, Except.bind]

namespace Task

variable {α β : Type}

theorem result_bind (x : Task α) (f : α → Task β) :
    (x >>= f).result = x.result >>= fun a => (f a).result := by
  show (andThen x f).result = _
  rw [andThen]
  cases x.result <;> rfl

theorem result_bind_eq_ok_iff {x : Task α} {f : α → Task β} {b : β} :
    (x >>= f).result = .ok b ↔ ∃ a, x.result = .ok a ∧ (f a).result = .ok b := by
  rw [result_bind, bind_eq_ok_iff]

theorem result_require_eq_ok_iff {fault : CommandFault} {a? : Option α} {a : α} :
    (require fault a?).result = .ok a ↔ a? = some a := by
  cases a? <;> simp [require, ofExcept, stop]

theorem result_log_bind {lines : List LogLine} {f : Unit → Task β} :
    (log lines >>= f).result = (f ()).result :=
  rfl

end Task

/-! ## Loading configurations -/

namespace Machine

/-- The configuration that a run reads: from the file that it is given, or for want of that from
the one that is found from the working directory, or the empty one. -/
inductive Reads (m : Machine) : Option String → Config → Prop
  | given {path : String} {c : Config} (hread : m.readConfig path = .ok c) : Reads m (some path) c
  | found {path : String} {c : Config} (hpath : m.discover m.cwdPath = some path)
    (hread : m.readConfig path = .ok c) : Reads m none c
  | default (hnone : m.discover m.cwdPath = none) : Reads m none {}

/-- The configuration that a run reads, if it is valid. -/
structure Loads (m : Machine) (explicit : Option String) (c : Config) : Prop where
  reads : m.Reads explicit c
  valid : c.IsValid m.isDirectory

variable {m : Machine} {explicit : Option String} {c : Config}

theorem configPath?_some (m : Machine) (path : String) : m.configPath? (some path) = some path := by
  rw [configPath?, Option.orElse_eq_orElse, Option.orElse_some]

theorem configPath?_none (m : Machine) : m.configPath? none = m.discover m.cwdPath := by
  rw [configPath?, Option.orElse_eq_orElse, Option.orElse_none]

theorem configAt_some_eq_ok_iff {path : String} :
    m.configAt (some path) = .ok c ↔ m.readConfig path = .ok c := by
  rw [configAt]
  cases m.readConfig path with
  | ok loaded =>
    show (Except.ok loaded : Except CommandFault Config) = .ok c ↔ _
    rw [Except.ok.injEq, Except.ok.injEq]
  | error fault =>
    show (Except.error (.unreadableConfig path fault) : Except CommandFault Config) = .ok c ↔ _
    simp only [reduceCtorEq]

theorem configAt_none_eq_ok_iff : m.configAt none = .ok c ↔ c = {} := by
  rw [configAt, Except.ok.injEq, eq_comm]

theorem configAt_eq_ok_iff : m.configAt (m.configPath? explicit) = .ok c ↔ m.Reads explicit c := by
  cases explicit with
  | some path =>
    rw [configPath?_some, configAt_some_eq_ok_iff]
    exact ⟨.given, fun | .given hread => hread⟩
  | none =>
    rw [configPath?_none]
    constructor
    · intro h
      cases hpath : m.discover m.cwdPath with
      | some path =>
        rw [hpath, configAt_some_eq_ok_iff] at h
        exact .found hpath h
      | none =>
        rw [hpath, configAt_none_eq_ok_iff] at h
        exact h ▸ .default hpath
    · rintro (_ | ⟨hpath, hread⟩ | hnone)
      · rw [hpath, configAt_some_eq_ok_iff]
        exact hread
      · rw [hnone, configAt_none_eq_ok_iff]

theorem checked_eq_ok_iff {loaded : Config} :
    m.checked c = .ok loaded ↔ loaded = c ∧ c.IsValid m.isDirectory := by
  rw [checked, ← Config.fault?_eq_none_iff]
  cases c.fault? m.isDirectory <;> simp [eq_comm]

/-- A run loads the configuration that it reads, if this is valid. -/
theorem result_loadConfig_eq_ok_iff :
    (m.loadConfig explicit).result = .ok c ↔ m.Loads explicit c := by
  show m.configAt (m.configPath? explicit) >>= m.checked = .ok c ↔ _
  simp only [bind_eq_ok_iff, configAt_eq_ok_iff, checked_eq_ok_iff]
  constructor
  · rintro ⟨_, hreads, rfl, hvalid⟩
    exact ⟨hreads, hvalid⟩
  · rintro ⟨hreads, hvalid⟩
    exact ⟨c, hreads, rfl, hvalid⟩

end Machine

end ShellPages
