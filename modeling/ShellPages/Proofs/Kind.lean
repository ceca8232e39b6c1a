import ShellPages.Command.Run
import ShellPages.Proofs.Command.Doc
import ShellPages.Proofs.Text.Lower

/-!
# How kinds are spelled

A kind is read off its name in upper or lower case, with the Kelvin sign for k, and off nothing
else (`Kind.parse?_eq_some_iff`). A request for a kind that is spelled otherwise ends with a fault
that quotes what was given (`Kind.parse?_exact`).
-/

namespace ShellPages

namespace Kind

/-- Whether a text spells the name of a kind: as many characters, each of which stands for the
letter at its place. -/
def IsSpelled (k : Kind) (text : String) : Prop :=
  List.Forall₂ Text.StandsFor text.toList k.name.toList

theorem ofName?_eq_some_iff {name : String} {k : Kind} : ofName? name = some k ↔ name = k.name := by
  constructor
  · intro h
    have hname := List.find?_some h
    exact (eq_of_beq hname).symm
  · rintro rfl
    cases k <;> rfl

theorem lt_of_mem_name (k : Kind) : ∀ letter ∈ k.name.toList, letter.toNat < 128 := by
  cases k <;> simp [name]

theorem parse?_eq_some_iff {text : String} {k : Kind} :
    parse? text = some k ↔ k.IsSpelled text := by
  rw [parse?, ofName?_eq_some_iff, Text.lower_eq_iff k.lt_of_mem_name, IsSpelled]

theorem parse?_eq_none_iff {text : String} :
    parse? text = none ↔ ∀ k : Kind, ¬k.IsSpelled text := by
  simp only [Option.eq_none_iff_forall_ne_some, ne_eq, parse?_eq_some_iff]

end Kind

/-- A request in a known format for a kind that is none ends with a fault that says so. -/
theorem DocRequest.run_of_unknown_kind {r : DocRequest} {format : ReportFormat}
    (hformat : r.format = format.name) (hkind : Kind.parse? r.kind = none) (m : Machine)
    (color : Bool) :
    (Command.run m color (.doc r)).status = .fault ∧
      (Command.run m color (.doc r)).errors = ["Error: " ++ Kind.unknownMessage r.kind] := by
  have hresult : (r.task m color).result = .error (.unknownKind r.kind) := by
    rw [DocRequest.task, ReportFormat.ofName?_eq_some_iff.2 hformat, hkind]
    rfl
  rw [Command.run, Task.outcome, hresult]
  exact ⟨rfl, rfl⟩

/-- **Which texts are read as a kind.** A text is read as a kind exactly if it has as many
characters as the name of the kind, and each of them is the letter at its place in upper or lower
case, or the Kelvin sign in the place of k. Every other text is refused and quoted as it is, and
so ends a request for it. -/
theorem Kind.parse?_exact (text : String) :
    (∀ k : Kind, parse? text = some k ↔ k.IsSpelled text) ∧
    ((∀ k : Kind, ¬k.IsSpelled text) →
      parse? text = none ∧ unknownMessage text = "unknown construct kind: " ++ text ∧
      ∀ (m : Machine) (color : Bool) (r : DocRequest) (format : ReportFormat),
        r.kind = text → r.format = format.name →
          (Command.run m color (.doc r)).status = .fault ∧
            (Command.run m color (.doc r)).errors = ["Error: " ++ unknownMessage text]) := by
  refine ⟨fun k => parse?_eq_some_iff, fun hnone => ?_⟩
  have hparse : parse? text = none := parse?_eq_none_iff.2 hnone
  have hmessage : unknownMessage text = "unknown construct kind: " ++ text := rfl
  refine ⟨hparse, hmessage, ?_⟩
  rintro m color r format rfl hformat
  exact DocRequest.run_of_unknown_kind hformat hparse m color

/-- A kind in mixed case with a Kelvin sign, and a text with a letter that only begins like one of
ASCII in lower case. -/
theorem Kind.parse?_exact_foreignLetters :
    parse? "\u212AeyWord" = some .keyword ∧ (∀ k : Kind, ¬k.IsSpelled "VAR\u0130ABLE") ∧
      parse? "VAR\u0130ABLE" = none ∧
      (Command.run {} false (.doc { names := ["cd"], kind := "VAR\u0130ABLE" })).errors =
        ["Error: unknown construct kind: VAR\u0130ABLE"] := by
  have hkeyword : Kind.keyword.IsSpelled "\u212AeyWord" := by
    unfold IsSpelled
    decide
  have hnone : ∀ k : Kind, ¬k.IsSpelled "VAR\u0130ABLE" := by
    intro k
    unfold IsSpelled
    cases k <;> decide
  obtain ⟨hparse, hmessage, hrun⟩ := (parse?_exact "VAR\u0130ABLE").2 hnone
  obtain ⟨-, herrors⟩ := hrun {} false
    { names := ["cd"], kind := "VAR\u0130ABLE" } .pretty rfl rfl
  exact ⟨((parse?_exact _).1 _).2 hkeyword, hnone, hparse, herrors⟩

/-- Not only letters of ASCII stand in the spelling of a kind: one with a Kelvin sign is read, but
it is not the name up to the case of these letters. -/
theorem Kind.keyword_spelled_with_kelvinSign :
    parse? "\u212Aeyword" = some .keyword ∧
      "\u212Aeyword".length = Kind.keyword.name.length ∧
      "\u212Aeyword".toList.map Char.toLower ≠ Kind.keyword.name.toList.map Char.toLower := by
  decide +kernel

end ShellPages
