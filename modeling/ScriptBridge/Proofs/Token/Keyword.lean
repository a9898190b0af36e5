import ScriptBridge.Proofs.Symbol.PlainNames
import ScriptBridge.Proofs.Token.Phrases

/-!
# ScriptBridge.Proofs.Token.Keyword

Which names become usable identifiers.

The words that the target language reserves depend on its edition (`Edition.reserved`); an identifier is usable in an
edition if it is raw or no such word.  `Identifier.escaped` raises the words of one list.  The list lacks the four words
of `Edition.unlisted`, which stay as they are and so are not usable, and it has a word that cannot be raised.

Main results:
  * `Edition.mem_reserved_iff` — the reserved words that are not on the list;
  * `Identifier.raises_iff` — the names that become usable identifiers;
  * `Identifier.escaped_error_iff` — the names that become no identifier.
-/

namespace ScriptBridge.Token

open ScriptBridge.Text

/-! ## §1. Reserved words. -/

/-- The editions of the target language. -/
inductive Edition where
  | of2015
  | of2018
  | of2021
  | of2024
  deriving DecidableEq, Repr

namespace Edition

/-- The words that every edition reserves, in use or for later. -/
def always : List String :=
  ["as", "break", "const", "continue", "crate", "else", "enum", "extern", "false", "fn", "for", "if", "impl", "in",
   "let", "loop", "match", "mod", "move", "mut", "pub", "ref", "return", "self", "Self", "static", "struct", "super",
   "trait", "true", "type", "unsafe", "use", "where", "while",
   "abstract", "become", "box", "do", "final", "macro", "override", "priv", "typeof", "unsized", "virtual", "yield"]

/-- The words that an edition adds to those. -/
def added : Edition → List String
  | of2015 => []
  | of2018 | of2021 => ["async", "await", "dyn", "try"]
  | of2024 => ["async", "await", "dyn", "try", "gen"]

/-- The words that may not be used as plain identifiers. -/
def reserved (edition : Edition) : List String :=
  always ++ edition.added

/-- The reserved words that are not on the list of keywords. -/
def unlisted : Edition → List String
  | of2015 | of2018 | of2021 => ["self", "Self", "super"]
  | of2024 => ["self", "Self", "super", "gen"]

/-- **Reserved words.**  The list of keywords lacks the three path roots that stand for a value, a type and a module,
and the word that the last edition added. -/
theorem mem_reserved_iff {edition : Edition} {s : String} (plain : s ∉ Identifier.keywords) :
    s ∈ edition.reserved ↔ s ∈ edition.unlisted := by
  have listed : ∀ w ∈ edition.reserved, w ∈ Identifier.keywords ∨ w ∈ edition.unlisted := by
    cases edition <;> decide
  have others : ∀ w ∈ edition.unlisted, w ∈ edition.reserved := by
    cases edition <;> decide
  exact ⟨fun mem => (listed s mem).resolve_left plain, others s⟩

theorem not_mem_unlisted {edition : Edition} {s : String} (known : s ∈ Identifier.keywords) :
    s ∉ edition.unlisted := by
  have each : ∀ w ∈ Identifier.keywords, w ∉ edition.unlisted := by
    cases edition <;> decide
  exact each s known

end Edition

/-! ## §2. Usable identifiers. -/

/-- A letter or an underscore, followed by letters, digits and underscores, all of them ASCII. -/
def isAsciiIdentifier : List Char → Bool
  | [] => false
  | c :: rest => (c.isAlpha || c == '_') && rest.all isNameChar

theorem shape_ascii {w : List Char} (h : isAsciiIdentifier w = true) : hasIdentifierShape w = true := by
  cases w with
  | nil => cases h
  | cons c rest =>
    obtain ⟨first, others⟩ := Bool.and_eq_true_iff.1 h
    have continues : rest.all isIdentContinue = true :=
      List.all_eq_true.2 (fun d mem => (isNameChar_classes (List.all_eq_true.1 others d mem)).continues)
    rcases Bool.or_eq_true_iff.1 first with letter | underscore
    · exact shape_plain (isPlainName_cons letter (List.all_eq_true.1 others))
    · rw [hasIdentifierShape, underscore, continues]
      rfl

namespace Identifier

/-- The identifier names something in code of the edition. -/
structure Usable (edition : Edition) (id : Identifier) : Prop where
  isName : id.IsName
  named : id.name ≠ "_"
  free : id.raw = true ∨ id.name ∉ edition.reserved

/-! ## §3. What becomes of a name. -/

section

variable {s : String}

theorem escaped_listed (shape : hasIdentifierShape s.toList = true) (known : s ∈ keywords) (other : s ≠ "crate") :
    escaped s = .ok ⟨s, true⟩ := by
  have raised : ¬unraisable.contains s = true := fun unraised => other (eq_crate_of_unraisable known unraised)
  rw [escaped_of_shape shape, if_pos (List.contains_iff_mem.2 known), if_neg raised]

theorem escaped_unlisted (shape : hasIdentifierShape s.toList = true) (plain : s ∉ keywords) :
    escaped s = .ok ⟨s, false⟩ := by
  rw [escaped_of_shape shape, if_neg (fun known => plain (List.contains_iff_mem.1 known))]

theorem escaped_crate : escaped "crate" = .error (.reserved "crate") := by
  decide

/-- The name becomes a usable identifier of the edition. -/
def Raises (edition : Edition) (s : String) : Prop :=
  ∃ id, escaped s = .ok id ∧ id.name = s ∧ id.Usable edition

theorem raises_iff {edition : Edition} (shape : hasIdentifierShape s.toList = true) (named : s ≠ "_") :
    Raises edition s ↔ s ≠ "crate" ∧ s ∉ edition.unlisted := by
  by_cases known : s ∈ keywords
  · constructor
    · rintro ⟨id, made, -, -⟩
      refine ⟨?_, Edition.not_mem_unlisted known⟩
      rintro rfl
      rw [escaped_crate] at made
      cases made
    · rintro ⟨other, -⟩
      have made := escaped_listed shape known other
      have name : (⟨s, true⟩ : Identifier).name = s := name_mk true (isFirm_of_shape shape)
      exact ⟨_, made, name, isName_escaped made, name.symm ▸ named, .inl rfl⟩
  · have made := escaped_unlisted shape known
    have name : (⟨s, false⟩ : Identifier).name = s := name_mk false (isFirm_of_shape shape)
    constructor
    · rintro ⟨id, same, -, usable⟩
      obtain rfl : ⟨s, false⟩ = id := Except.ok.inj (made.symm.trans same)
      refine ⟨fun crate => known (by rw [crate]; decide), fun missing => ?_⟩
      rcases usable.free with raw | free
      · cases raw
      · rw [name] at free
        exact free ((Edition.mem_reserved_iff known).2 missing)
    · rintro ⟨-, present⟩
      have free : s ∉ edition.reserved := fun mem => present ((Edition.mem_reserved_iff known).1 mem)
      exact ⟨_, made, name, isName_escaped made, name.symm ▸ named, .inr (name.symm ▸ free)⟩

theorem escaped_error_iff (shape : hasIdentifierShape s.toList = true) {e : IdentifierError} :
    escaped s = .error e ↔ s = "crate" ∧ e = .reserved s := by
  constructor
  · intro failed
    by_cases known : s ∈ keywords
    · by_cases crate : s = "crate"
      · subst crate
        exact ⟨rfl, (Except.error.inj (escaped_crate.symm.trans failed)).symm⟩
      · rw [escaped_listed shape known crate] at failed
        cases failed
    · rw [escaped_unlisted shape known] at failed
      cases failed
  · rintro ⟨rfl, rfl⟩
    exact escaped_crate

end

/-- **Escaping.**  Of all names, only `crate` becomes no identifier at all; the names that become no usable one are
this one and the reserved words that are not listed as keywords. -/
theorem escaped_usable_iff {s : String} (ascii : isAsciiIdentifier s.toList = true) (named : s ≠ "_") :
    (∀ e, escaped s = .error e ↔ s = "crate" ∧ e = .reserved s) ∧
    ∀ edition, Raises edition s ↔ s ≠ "crate" ∧ s ∉ edition.unlisted :=
  ⟨fun _ => escaped_error_iff (shape_ascii ascii), fun _ => raises_iff (shape_ascii ascii) named⟩

/-- A name that is usable up to the last edition. -/
theorem escaped_usable_iff_gen : isAsciiIdentifier "gen".toList = true ∧ "gen" ≠ "_" ∧
    (∀ e, escaped "gen" = .error e ↔ "gen" = "crate" ∧ e = .reserved "gen") ∧
    ∀ edition, Raises edition "gen" ↔ "gen" ≠ "crate" ∧ "gen" ∉ edition.unlisted :=
  ⟨by decide, by decide, escaped_usable_iff (by decide) (by decide)⟩

/-- The word `crate` is listed as a keyword, but cannot be raised. -/
theorem escaped_fails_crate : isAsciiIdentifier "crate".toList = true ∧ "crate" ≠ "_" ∧
    escaped "crate" = .error (.reserved "crate") ∧ ∀ edition, "crate" ∈ Edition.reserved edition :=
  ⟨by decide, by decide, by decide, fun edition => by cases edition <;> decide⟩

end Identifier

end ScriptBridge.Token
