import DualToken.Crypto.PasswordHash
import DualToken.Proofs.Encoding.Base64

/-!
# Written password hashes

A written hash is read back to its parts (`Parts.read?_write`), so a password is recognised by its
own hash (`verify_hash`), and so is every password with the same digest, but no other
(`verify_eq_true_iff`).
-/

set_option autoImplicit false

namespace DualToken.PasswordHash

/-- The digits of a cost, two of them at least. -/
def costDigits (cost : Nat) : List Char :=
  List.replicate (2 - (Text.writeNatural cost).length) '0' ++ Text.writeNatural cost

/-- The digits of an allowed cost are read back to it. -/
theorem readUnsigned?_costDigits {cost : Nat} (allowed : isCost cost = true) :
    Text.readUnsigned? (UInt32.size - 1) (costDigits cost) = some cost ∧
      '$' ∉ costDigits cost ∧ costDigits cost ≠ [] := by
  have table : ∀ cost < 32, Text.readUnsigned? (UInt32.size - 1) (costDigits cost) = some cost ∧
      '$' ∉ costDigits cost ∧ costDigits cost ≠ [] := by decide
  have most : cost ≤ maxCost := by
    simp only [isCost, Bool.and_eq_true, decide_eq_true_eq] at allowed
    exact allowed.2
  exact table cost (Nat.lt_succ_of_le most)

/-- A digest has twenty-three bytes. -/
theorem length_digest (cost : Nat) (salt : List UInt8) (password : String) :
    (digest cost salt password).length = 23 := by
  have blocks : ∀ (encipher : UInt32 × UInt32 → UInt32 × UInt32) (text : List (UInt32 × UInt32)),
      ((text.map encipher).flatMap fun block =>
        wordBytes block.1 ++ wordBytes block.2).length = 8 * text.length := by
    intro encipher text
    induction text with
    | nil => rfl
    | cons block text ih =>
      rw [List.map_cons, List.flatMap_cons, List.length_append, ih, List.length_cons]
      have words : (wordBytes (encipher block).1 ++ wordBytes (encipher block).2).length = 8 := rfl
      omega
  unfold digest
  rw [List.length_take, blocks]
  rfl

namespace Parts

/-- The pieces of a written hash. -/
theorem write_eq (parts : Parts) :
    parts.write.toList = [] ++ '$' :: ("2b".toList ++ '$' :: (costDigits parts.cost ++ '$' ::
      (Base64.encode .passwordHash parts.salt ++ Base64.encode .passwordHash parts.digest))) := by
  have front : "$2b$".toList = '$' :: "2b".toList ++ ['$'] := by decide
  unfold write costDigits
  simp only [String.toList_ofList, front, List.append_assoc, List.cons_append, List.nil_append]

/-- **A written hash is read back to its parts.** -/
theorem read?_write {parts : Parts} (allowed : isCost parts.cost = true)
    (salt : parts.salt.length = 16) (digest : parts.digest.length = 23) :
    read? parts.write = some parts := by
  obtain ⟨cost, noDollar, digits⟩ := readUnsigned?_costDigits allowed
  have body : '$' ∉ Base64.encode .passwordHash parts.salt ++
      Base64.encode .passwordHash parts.digest := by
    intro member
    rcases List.mem_append.1 member with member | member
    · exact Base64.dollar_notMem_encode_passwordHash _ member
    · exact Base64.dollar_notMem_encode_passwordHash _ member
  have saltLength : (Base64.encode .passwordHash parts.salt).length = 22 := by
    rw [Base64.length_encode, salt]
  have length : (Base64.encode .passwordHash parts.salt ++
      Base64.encode .passwordHash parts.digest).length = 53 := by
    rw [List.length_append, Base64.length_encode, Base64.length_encode, salt, digest]
  have pieces : (parts.write.toList.splitOn '$').filter (!·.isEmpty) =
      ["2b".toList, costDigits parts.cost, Base64.encode .passwordHash parts.salt ++
        Base64.encode .passwordHash parts.digest] := by
    rw [write_eq, List.splitOn_append_cons_self_of_not_mem List.not_mem_nil,
      List.splitOn_append_cons_self_of_not_mem (by decide),
      List.splitOn_append_cons_self_of_not_mem noDollar, List.splitOn_eq_singleton body]
    have written : ¬ (Base64.encode .passwordHash parts.salt ++
        Base64.encode .passwordHash parts.digest).isEmpty = true := by
      rw [List.isEmpty_iff_length_eq_zero, length]
      decide
    simp [digits, written]
  have version : versions.contains (String.ofList "2b".toList) = true := by decide
  unfold read?
  rw [pieces]
  simp only [version, cost, length, List.take_left' saltLength, List.drop_left' saltLength,
    Base64.decode?_encode, Option.bind_eq_bind, Option.bind_some, allowed, guard, decide_true,
    Bool.and_self, if_true]
  rfl

end Parts

/-- **A password is recognised by its own hash.** -/
theorem verify_hash {cost : Nat} {salt : List UInt8} {password written : String}
    (salted : salt.length = 16) (hashed : hash cost salt password = .ok written) :
    verify password written = true := by
  unfold hash at hashed
  split at hashed
  · next allowed =>
    obtain rfl := Except.ok.inj hashed
    unfold verify
    rw [Parts.read?_write allowed salted (length_digest cost salt password)]
    exact decide_eq_true rfl
  · exact absurd hashed nofun

/-- **A hash recognises the passwords that have its digest, and no others.** -/
theorem verify_eq_true_iff {cost : Nat} {salt : List UInt8} {password written : String}
    (salted : salt.length = 16) (hashed : hash cost salt password = .ok written)
    (other : String) :
    verify other written = true ↔ digest cost salt other = digest cost salt password := by
  unfold hash at hashed
  split at hashed
  · next allowed =>
    obtain rfl := Except.ok.inj hashed
    unfold verify
    rw [Parts.read?_write allowed salted (length_digest cost salt password)]
    simp only [decide_eq_true_eq]
    exact eq_comm
  · exact absurd hashed nofun

end DualToken.PasswordHash
