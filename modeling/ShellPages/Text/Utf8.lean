/-!
# Reading bytes as text

`decode` reads bytes as UTF-8. When they are not, it tells where the longest readable beginning
ends and how many bytes after it are to blame: the longest beginning of a character that the
bytes contain there, or one byte if there is none. If the bytes stop inside a character, the
sequence is incomplete.
-/

namespace ShellPages.Text

/-- Why bytes are not UTF-8. -/
structure DecodeFault where
  /-- How many bytes can be read. -/
  readable : Nat
  /-- How many bytes after those are to blame; absent if the bytes stop inside a character. -/
  length : Option Nat
  deriving DecidableEq, Repr

namespace DecodeFault

/-- The text of a fault. -/
def message (f : DecodeFault) : String :=
  match f.length with
  | some n => s!"invalid utf-8 sequence of {n} bytes from index {f.readable}"
  | none => s!"incomplete utf-8 byte sequence from index {f.readable}"

end DecodeFault

/-- How a character that begins with a byte goes on: how many bytes follow, and between which
bounds the next one lies. Later ones lie between `0x80` and `0xBF`. -/
def continuation (b : UInt8) : Option (Nat × UInt8 × UInt8) :=
  if b < 0x80 then some (0, 0, 0)
  else if b < 0xC2 then none
  else if b < 0xE0 then some (1, 0x80, 0xBF)
  else if b == 0xE0 then some (2, 0xA0, 0xBF)
  else if b == 0xED then some (2, 0x80, 0x9F)
  else if b < 0xF0 then some (2, 0x80, 0xBF)
  else if b == 0xF0 then some (3, 0x90, 0xBF)
  else if b < 0xF4 then some (3, 0x80, 0xBF)
  else if b == 0xF4 then some (3, 0x80, 0x8F)
  else none

/-- What follows a character's first bytes: the rest after the character, or how many bytes are
to blame. -/
inductive Continued where
  | whole (rest : List UInt8)
  | broken (length : Nat)
  | incomplete

/-- Read the following bytes of a character of which `seen` bytes have been read. -/
def continued (seen : Nat) : Nat → UInt8 → UInt8 → List UInt8 → Continued
  | 0, _, _, rest => .whole rest
  | _ + 1, _, _, [] => .incomplete
  | n + 1, low, high, b :: rest =>
    if low ≤ b && b ≤ high then continued (seen + 1) n 0x80 0xBF rest else .broken seen

/-- The first fault, after `readable` bytes without one. The first argument bounds the number of
characters. -/
def faultFrom (readable : Nat) : Nat → List UInt8 → Option DecodeFault
  | 0, _ => none
  | _ + 1, [] => none
  | fuel + 1, b :: rest =>
    match continuation b with
    | none => some ⟨readable, some 1⟩
    | some (n, low, high) =>
      match continued 1 n low high rest with
      | .whole rest => faultFrom (readable + n + 1) fuel rest
      | .broken length => some ⟨readable, some length⟩
      | .incomplete => some ⟨readable, none⟩

/-- The first place at which bytes are not UTF-8; meant for bytes that are not. -/
def decodeFault (bytes : ByteArray) : DecodeFault :=
  (faultFrom 0 (bytes.size + 1) bytes.toList).getD ⟨bytes.size, none⟩

/-- Read bytes as UTF-8. -/
def decode (bytes : ByteArray) : Except DecodeFault String :=
  match String.fromUTF8? bytes with
  | some text => .ok text
  | none => .error (decodeFault bytes)

/-- A text is read back from its bytes. -/
theorem decode_eq_ok_iff {bytes : ByteArray} {text : String} :
    decode bytes = .ok text ↔ bytes = text.toUTF8 := by
  unfold decode String.fromUTF8?
  constructor
  · intro h
    by_cases hv : bytes.IsValidUTF8
    · simp only [hv, dif_pos, Except.ok.injEq] at h
      subst h
      rfl
    · simp [hv] at h
  · rintro rfl
    have hv : text.toUTF8.IsValidUTF8 := text.isValidUTF8
    simp only [hv, dif_pos, Except.ok.injEq]
    rfl

end ShellPages.Text
