import ScriptBridge.Token.Identifier

/-!
# ScriptBridge.Proofs.Token.Identifier

The text of an identifier is the text that it was made from.
-/

namespace ScriptBridge.Token.Identifier

/-- A plain identifier is made of a name with which nothing is wrong. -/
theorem plain_eq_ok {s : String} {id : Identifier} (h : plain s = .ok id) :
    nameError? s = none ∧ id = ⟨s, false⟩ := by
  rw [plain_eq] at h
  cases wrong : nameError? s with
  | some e =>
    rw [wrong] at h
    cases h
  | none =>
    rw [wrong] at h
    exact ⟨rfl, (Except.ok.inj h).symm⟩

/-- A raw identifier is made of a name with which nothing is wrong, and which may be raised. -/
theorem prefixed_eq_ok {s : String} {id : Identifier} (h : prefixed s = .ok id) :
    nameError? s = none ∧ unraisable.contains s = false ∧ id = ⟨s, true⟩ := by
  rw [prefixed_eq] at h
  cases wrong : nameError? s with
  | some e =>
    rw [wrong] at h
    cases h
  | none =>
    simp only [wrong] at h
    split at h
    next => cases h
    next raised => exact ⟨rfl, Bool.eq_false_iff.2 raised, (Except.ok.inj h).symm⟩

/-- A name that becomes an identifier is kept as it is. -/
theorem name_plain {s : String} {id : Identifier} (h : plain s = .ok id) : id.name = s := by
  obtain ⟨right, rfl⟩ := plain_eq_ok h
  exact name_mk false (isFirm_of_nameError? right)

/-- A name that becomes a raw identifier is kept as it is. -/
theorem name_prefixed {s : String} {id : Identifier} (h : prefixed s = .ok id) : id.name = s := by
  obtain ⟨right, -, rfl⟩ := prefixed_eq_ok h
  exact name_mk true (isFirm_of_nameError? right)

/-- **The text of an identifier** is what it was made from, a prefix included. -/
theorem text_ofText {s : String} {id : Identifier} (h : ofText s = .ok id) : id.text = s := by
  unfold ofText at h
  split at h
  next rest spelled =>
    have raised : id.raw = true := by rw [(prefixed_eq_ok h).2.2]
    rw [text, raised, name_prefixed h]
    apply String.toList_inj.1
    simp [spelled]
  next =>
    have bare : id.raw = false := by rw [(plain_eq_ok h).2]
    rw [text, bare, name_plain h]
    rfl

end ScriptBridge.Token.Identifier
