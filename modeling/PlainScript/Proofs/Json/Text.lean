/-
Reading texts that were written: both layouts escape every character so that reading gives it
back, one beyond the basic plane from its pair of surrogates.
-/

import PlainScript.Json.Writer

namespace PlainScript.Json

theorem hexValue?_digitChar {digit : Nat} (small : digit < 16) :
    hexValue? (Nat.digitChar digit) = some digit := by
  have all : ∀ digit < 16, hexValue? (Nat.digitChar digit) = some digit := by decide
  exact all digit small

/-- Four hexadecimal digits spell every code of sixteen bits. -/
theorem exists_hexDigits {code : Nat} (short : code < 0x10000) :
    ∃ a b c d, Text.hexDigits 4 code = [a, b, c, d] ∧ hexCode? a b c d = some code := by
  refine ⟨_, _, _, _, rfl, ?_⟩
  have digit (number : Nat) : number % 16 < 16 := Nat.mod_lt number (by decide)
  rw [hexCode?, hexValue?_digitChar (digit _), hexValue?_digitChar (digit _),
    hexValue?_digitChar (digit _), hexValue?_digitChar (digit _)]
  refine congrArg some ?_
  omega

/-- A unit that is half of no pair is read as its character. -/
theorem readText_unitEscape (opened : Nat) {c : Char} (basic : c.toNat < 0x10000)
    {rest : List Char} (more : rest ≠ []) :
    readText opened (unitEscape c.toNat ++ rest) = prepend c (readText opened rest) := by
  obtain ⟨first, second, third, fourth, digits, code⟩ := exists_hexDigits basic
  -- No character has the code of half a pair.
  have valid : c.toNat < 0xD800 ∨ 0xDFFF < c.toNat ∧ c.toNat < 0x110000 := c.valid
  have high : isHighSurrogate c.toNat = false := by simp [isHighSurrogate]; omega
  have low : isLowSurrogate c.toNat = false := by simp [isLowSurrogate]; omega
  rw [unitEscape, digits]
  simp only [List.cons_append, List.nil_append, readText, code, high, low]
  simp [more, Char.ofNat_toNat]

/-- A pair of units is read as the character beyond the basic plane. -/
theorem readText_pair (opened : Nat) {c : Char} (beyond : 0x10000 ≤ c.toNat) (rest : List Char) :
    readText opened (unitEscape (0xD800 + (c.toNat - 0x10000) / 0x400) ++
      (unitEscape (0xDC00 + (c.toNat - 0x10000) % 0x400) ++ rest)) =
      prepend c (readText opened rest) := by
  have valid : c.toNat < 0xD800 ∨ 0xDFFF < c.toNat ∧ c.toNat < 0x110000 := c.valid
  obtain ⟨first, second, third, fourth, digits, code⟩ := exists_hexDigits
    (by omega : 0xD800 + (c.toNat - 0x10000) / 0x400 < 0x10000)
  obtain ⟨fifth, sixth, seventh, eighth, digits', code'⟩ := exists_hexDigits
    (by omega : 0xDC00 + (c.toNat - 0x10000) % 0x400 < 0x10000)
  have high : isHighSurrogate (0xD800 + (c.toNat - 0x10000) / 0x400) = true := by
    simp [isHighSurrogate]; omega
  have low : isLowSurrogate (0xDC00 + (c.toNat - 0x10000) % 0x400) = true := by
    simp [isLowSurrogate]; omega
  have joined : joinSurrogates (0xD800 + (c.toNat - 0x10000) / 0x400)
      (0xDC00 + (c.toNat - 0x10000) % 0x400) = c := by
    have same : 0x10000 + (0xD800 + (c.toNat - 0x10000) / 0x400 - 0xD800) * 0x400 +
        (0xDC00 + (c.toNat - 0x10000) % 0x400 - 0xDC00) = c.toNat := by omega
    rw [joinSurrogates, same, Char.ofNat_toNat]
  rw [unitEscape, unitEscape, digits, digits']
  simp only [List.cons_append, List.nil_append, readText, code, code', high, low, joined]
  simp

/-- Reading undoes the escape of one character. -/
theorem readText_escapeRaw (opened : Nat) (c : Char) {rest : List Char} (more : rest ≠ []) :
    readText opened (escapeRaw c ++ rest) = prepend c (readText opened rest) := by
  unfold escapeRaw
  split
  iterate 7 rfl
  · rename_i quote backslash _ _ _ _ _
    split
    · rename_i control
      exact readText_unitEscape opened (by omega) more
    · rename_i printable
      rw [List.singleton_append, readText]
      · rw [if_neg printable]
      · exact quote
      · exact backslash

/-- So it does where only basic characters stand for themselves. -/
theorem readText_escapeAscii (opened : Nat) (c : Char) {rest : List Char} (more : rest ≠ []) :
    readText opened (escapeAscii c ++ rest) = prepend c (readText opened rest) := by
  rw [escapeAscii]
  split
  · exact readText_escapeRaw opened c more
  · rw [codeEscape]
    split
    · rename_i basic
      exact readText_unitEscape opened basic more
    · rename_i beyond
      rw [List.append_assoc]
      exact readText_pair opened (Nat.le_of_not_lt beyond) rest

/-- The layouts with escapes that reading undoes. -/
def Layout.IsLegible (layout : Layout) : Prop :=
  ∀ opened c {rest : List Char}, rest ≠ [] →
    readText opened (layout.escape c ++ rest) = prepend c (readText opened rest)

/-- The layouts that make only the needed escapes. -/
def spaced (indent : Nat) : Layout := ⟨indent, escapeRaw⟩

theorem isLegible_spaced (indent : Nat) : (spaced indent).IsLegible :=
  fun opened c _ more => readText_escapeRaw opened c more

theorem isLegible_portable : portable.IsLegible :=
  fun opened c _ more => readText_escapeAscii opened c more

/-- Reading undoes the escapes of a text, up to its closing quote. -/
theorem Layout.IsLegible.readText_quoted {layout : Layout} (legible : layout.IsLegible)
    (opened : Nat) (content : String) (rest : List Char) :
    readText opened (content.toList.flatMap layout.escape ++ ['"'] ++ rest) =
      .ok (content.toList, rest) := by
  rw [List.append_assoc, List.singleton_append]
  induction content.toList with
  | nil => rw [List.flatMap_nil, List.nil_append, readText]
  | cons c text ih =>
      rw [List.flatMap_cons, List.append_assoc, legible opened c (by simp), ih]
      rfl

end PlainScript.Json
