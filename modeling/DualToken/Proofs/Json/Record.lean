import DualToken.Json.Outline
import DualToken.Json.Record
import DualToken.Json.Value
import DualToken.Proofs.Json.Number

/-!
# Reading objects that were written

A layout reads an object that was written from members that it knows and members that it passes
over. Reading goes member by member: a member that the layout knows is added to the draft
(`Updates`), any other is passed over, and the two together say what a list of members makes of a
draft (`Fills`). The object is then read as the record that the last draft completes to
(`read_object`).
-/

set_option autoImplicit false

namespace DualToken.Json

/-! ## Values inside an object -/

/-- Inside an object, a reader finds a value in these bytes and stops behind them. -/
def Reads {α : Type} (reader : Reader α) (bytes : List UInt8) (value : α) : Prop :=
  ∀ byte rest, IsDelimiter byte → reader (bytes ++ byte :: rest) = .value value (byte :: rest)

/-- The bytes of a literal. -/
def textBytes (content : String) : List UInt8 :=
  Text.utf8Chars (writeText content)

/-- A literal is its escaped characters between two quotes. -/
theorem textBytes_append (content : String) (rest : List UInt8) :
    textBytes content ++ rest =
      0x22 :: (Text.utf8Chars (content.toList.flatMap escape) ++ 0x22 :: rest) := by
  have quote : String.utf8EncodeChar '"' = [0x22] := rfl
  simp [textBytes, writeText, quote]

/-- A literal is read back, whatever stands behind it. -/
theorem readText_textBytes (content : String) (rest : List UInt8) :
    readText (textBytes content ++ rest) = .value content rest := by
  rw [textBytes_append, ← readTextBody_escape content rest]
  rfl

theorem reads_text (content : String) : Reads readText (textBytes content) content :=
  fun byte rest _ => readText_textBytes content (byte :: rest)

/-- The names of a choice are read from literals. -/
theorem reads_name {α : Type} {meaning : String → Option α} {text : String} {result : α}
    (means : meaning text = some result) : Reads (readName meaning) (textBytes text) result := by
  intro byte rest _
  rw [textBytes_append]
  change (readTextBody _).bind _ = _
  rw [readTextBody_escape, Outcome.bind_value, means]

/-- An integer of sixty-four bits has at most twenty digits. -/
theorem natAbs_toInt_lt (number : Int64) : number.toInt.natAbs < 10 ^ 20 := by
  have low := number.le_toInt
  have high := number.toInt_lt
  omega

theorem reads_int64 (number : Int64) : Reads readInt64 (integerBytes number.toInt) number := by
  intro byte rest delimiter
  have fits : (decide (Int64.minValue.toInt ≤ number.toInt) &&
      decide (number.toInt ≤ Int64.maxValue.toInt)) = true :=
    Bool.and_eq_true_iff.2
      ⟨decide_eq_true number.minValue_le_toInt, decide_eq_true number.toInt_le⟩
  rw [readInt64, readInteger_integerBytes delimiter rest (natAbs_toInt_lt number), if_pos fits,
    Outcome.map_value, Int64.ofInt_toInt]

/-- A value that can be done without is found where it can be read. -/
theorem Reads.leniently {α : Type} {reader : Reader α} {bytes : List UInt8} {value : α}
    (reads : Reads reader bytes value) : Reads (readLeniently reader) bytes (some value) := by
  intro byte rest delimiter
  rw [readLeniently, reads byte rest delimiter]

/-- A value that can be done without is missing where a reader stops behind it. -/
theorem reads_leniently_none {α : Type} {reader : Reader α} {bytes : List UInt8}
    {problem : Problem}
    (stops : ∀ byte rest, IsDelimiter byte →
      reader (bytes ++ byte :: rest) = .stop problem (byte :: rest)) :
    Reads (readLeniently reader) bytes none := by
  intro byte rest delimiter
  rw [readLeniently, stops byte rest delimiter]

theorem skips_text (content : String) : Reads skipValue (textBytes content) () := by
  intro byte rest _
  rw [textBytes_append]
  change skipFrom (.literal false .plain) [] _ = _
  rw [skipFrom_escape]
  rfl

theorem skips_integer (number : Int) : Reads skipValue (integerBytes number) () :=
  fun _ rest delimiter => skipValue_integerBytes delimiter rest number

/-- A value behind which nothing is left is the whole of a text. -/
theorem readWhole_of_value {α : Type} {reader : Reader α} {bytes : List UInt8} {value : α}
    (reads : reader bytes = .value value []) : readWhole reader bytes = .ok value := by
  rw [readWhole, reads]
  rfl

/-! ## Members -/

/-- The bytes of a member with its key. -/
def memberBytes (member : String × List UInt8) : List UInt8 :=
  textBytes member.1 ++ 0x3A :: member.2

/-- The bytes of members that stand behind others. -/
def laterMembersBytes (members : List (String × List UInt8)) : List UInt8 :=
  members.flatMap fun member => 0x2C :: memberBytes member

namespace Layout

/-- A member that the layout knows, and what its value makes of a draft that lacks it. -/
inductive Updates : (layout : Layout) → (name : String) → (bytes : List UInt8) →
    layout.Draft → layout.Draft → Prop
  /-- The member is the first of the layout. -/
  | here {name : String} {shape : Shape} {others : Layout} {bytes : List UInt8}
      {value : shape.Carrier} {more : Draft others} (reads : Reads shape.read bytes value) :
      Updates ((name, shape) :: others) name bytes (none, more) (some value, more)
  /-- The member is one of the others. -/
  | there {known name : String} {shape : Shape} {others : Layout} {bytes : List UInt8}
      {found : Option shape.Carrier} {more changed : Draft others} (other : name ≠ known)
      (later : Updates others name bytes more changed) :
      Updates ((known, shape) :: others) name bytes (found, more) (found, changed)

/-- What a list of members makes of a draft. -/
inductive Fills (layout : Layout) :
    layout.Draft → List (String × List UInt8) → layout.Draft → Prop
  /-- There are no more members. -/
  | done (draft : layout.Draft) : Fills layout draft [] draft
  /-- The layout knows the next member. -/
  | known {name : String} {bytes : List UInt8} {others : List (String × List UInt8)}
      {draft middle final : layout.Draft} (updates : Updates layout name bytes draft middle)
      (later : Fills layout middle others final) :
      Fills layout draft ((name, bytes) :: others) final
  /-- The next member is passed over. -/
  | unknown {name : String} {bytes : List UInt8} {others : List (String × List UInt8)}
      {draft final : layout.Draft} (new : name ∉ layout.map (·.1))
      (skips : Reads skipValue bytes ()) (later : Fills layout draft others final) :
      Fills layout draft ((name, bytes) :: others) final

/-- A colon is read as such. -/
theorem readMark_self (mark : UInt8) (noSpace : isSpace mark = false) (rest : List UInt8) :
    readMark mark (mark :: rest) = .value () rest := by
  have spaces : dropSpaces (mark :: rest) = mark :: rest :=
    List.dropWhile_cons_of_neg (by simp [noSpace])
  rw [readMark, spaces]
  exact if_pos rfl

/-- A member that the layout knows is read behind its key. -/
theorem Updates.readMember {layout : Layout} {name : String} {bytes : List UInt8}
    {draft changed : layout.Draft} (updates : Updates layout name bytes draft changed) :
    ∃ reader, readMember layout name draft = some reader ∧
      Reads reader (0x3A :: bytes) changed := by
  induction updates with
  | @here name shape others bytes value more reads =>
    refine ⟨_, if_pos rfl, fun byte rest delimiter => ?_⟩
    simp only [List.cons_append, readMark_self 0x3A rfl, Outcome.bind_value,
      reads byte rest delimiter, Option.isSome_none, Bool.false_eq_true, if_false]
    rfl
  | @there front name shape others bytes found more changed other later ih =>
    obtain ⟨reader, known, reads⟩ := ih
    refine ⟨_, (if_neg other).trans (by rw [known]; rfl), fun byte rest delimiter => ?_⟩
    exact congrArg
      (Outcome.map fun changed => ((found, changed) : Draft ((front, shape) :: others)))
      (reads byte rest delimiter)

/-- The layout has no reader for a name that it does not know. -/
theorem readMember_eq_none {layout : Layout} {name : String} (new : name ∉ layout.map (·.1))
    (draft : layout.Draft) : readMember layout name draft = none := by
  induction layout with
  | nil => rfl
  | cons member others ih =>
    simp only [List.map_cons, List.mem_cons, not_or] at new
    exact (if_neg new.1).trans (by rw [ih new.2]; rfl)

/-- A member that the layout knows is read with its key. -/
theorem Updates.reads {layout : Layout} {name : String} {bytes : List UInt8}
    {draft changed : layout.Draft} (updates : Updates layout name bytes draft changed) :
    Reads (readEntry layout draft) (memberBytes (name, bytes)) changed := by
  intro byte rest delimiter
  obtain ⟨reader, known, reads⟩ := updates.readMember
  rw [memberBytes, List.append_assoc, textBytes_append]
  simp only [readEntry, if_true, readTextBody_escape, Outcome.bind_value, known]
  exact reads byte rest delimiter

/-- A member that the layout does not know is passed over with its key. -/
theorem reads_unknown {layout : Layout} {name : String} {bytes : List UInt8}
    (new : name ∉ layout.map (·.1)) (skips : Reads skipValue bytes ()) (draft : layout.Draft) :
    Reads (readEntry layout draft) (memberBytes (name, bytes)) draft := by
  intro byte rest delimiter
  rw [memberBytes, List.append_assoc, textBytes_append]
  simp only [readEntry, if_true, readTextBody_escape, Outcome.bind_value,
    readMember_eq_none new draft, readUnknown, List.cons_append, readMark_self 0x3A rfl,
    skips byte rest delimiter, Outcome.map_value]

/-! ## Objects -/

/-- A member begins with the quote of its key. -/
theorem memberBytes_append (member : String × List UInt8) (rest : List UInt8) :
    ∃ others, memberBytes member ++ rest = 0x22 :: others := by
  rw [memberBytes, List.append_assoc, textBytes_append]
  exact ⟨_, rfl⟩

/-- No space stands in front of a member. -/
theorem dropSpaces_memberBytes (member : String × List UInt8) (rest : List UInt8) :
    dropSpaces (memberBytes member ++ rest) = memberBytes member ++ rest := by
  obtain ⟨others, begins⟩ := memberBytes_append member rest
  rw [begins]
  rfl

/-- Members behind others, or the end of the object, begin with a delimiter. -/
theorem laterMembersBytes_append (members : List (String × List UInt8)) (rest : List UInt8) :
    ∃ byte more, laterMembersBytes members ++ 0x7D :: rest = byte :: more ∧ IsDelimiter byte := by
  cases members with
  | nil => exact ⟨0x7D, rest, rfl, .inr rfl⟩
  | cons member others => exact ⟨0x2C, _, rfl, .inl rfl⟩

section Entries

variable {layout : Layout} {draft middle : layout.Draft} {member : String × List UInt8}
  (reads : Reads (readEntry layout draft) (memberBytes member) middle)
  (others : List (String × List UInt8)) (limit : Nat) (rest : List UInt8)
include reads

/-- The first member of an object is read at once. -/
theorem readEntries_first :
    readEntries layout (limit + 1) true draft
        (memberBytes member ++ (laterMembersBytes others ++ 0x7D :: rest)) =
      readEntries layout limit false middle (laterMembersBytes others ++ 0x7D :: rest) := by
  obtain ⟨byte, more, behind, delimiter⟩ := laterMembersBytes_append others rest
  have entry := reads byte more delimiter
  obtain ⟨inner, begins⟩ := memberBytes_append member (byte :: more)
  rw [behind, readEntries, dropSpaces_memberBytes, begins]
  rw [begins] at entry
  simp only [entry, if_true, Outcome.bind_value]
  rfl

/-- A later member is read behind its comma. -/
theorem readEntries_next :
    readEntries layout (limit + 1) false draft
        (laterMembersBytes (member :: others) ++ 0x7D :: rest) =
      readEntries layout limit false middle (laterMembersBytes others ++ 0x7D :: rest) := by
  obtain ⟨byte, more, behind, delimiter⟩ := laterMembersBytes_append others rest
  have entry := reads byte more delimiter
  have comma : laterMembersBytes (member :: others) ++ 0x7D :: rest =
      0x2C :: (memberBytes member ++ (laterMembersBytes others ++ 0x7D :: rest)) := by
    simp [laterMembersBytes]
  have spaces : dropSpaces (0x2C :: (memberBytes member ++ byte :: more)) =
      0x2C :: (memberBytes member ++ byte :: more) := rfl
  rw [comma, behind, readEntries, spaces]
  simp only [dropSpaces_memberBytes, entry, if_true, Outcome.bind_value, Bool.false_eq_true,
    if_false]
  rfl

end Entries

/-- Members behind others are read one after another. -/
theorem readEntries_later {layout : Layout} {draft final : layout.Draft}
    {members : List (String × List UInt8)} (fills : Fills layout draft members final)
    {limit : Nat} (enough : members.length < limit) (rest : List UInt8) :
    readEntries layout limit false draft (laterMembersBytes members ++ 0x7D :: rest) =
      .value final rest := by
  induction fills generalizing limit with
  | done draft =>
    obtain ⟨limit, rfl⟩ := Nat.exists_eq_add_one.2 enough
    rfl
  | known updates later ih =>
    obtain ⟨limit, rfl⟩ := Nat.exists_eq_add_one.2 (Nat.zero_lt_of_lt enough)
    rw [readEntries_next updates.reads]
    exact ih (Nat.lt_of_succ_lt_succ enough)
  | unknown new skips later ih =>
    obtain ⟨limit, rfl⟩ := Nat.exists_eq_add_one.2 (Nat.zero_lt_of_lt enough)
    rw [readEntries_next (reads_unknown new skips _)]
    exact ih (Nat.lt_of_succ_lt_succ enough)

/-- The bytes of members with commas between them. -/
def membersBytes : List (String × List UInt8) → List UInt8
  | [] => []
  | member :: others => memberBytes member ++ laterMembersBytes others

/-- All members of an object are read. -/
theorem readEntries_membersBytes {layout : Layout} {draft final : layout.Draft}
    {members : List (String × List UInt8)} (fills : Fills layout draft members final)
    {limit : Nat} (enough : members.length < limit) (rest : List UInt8) :
    readEntries layout limit true draft (membersBytes members ++ 0x7D :: rest) =
      .value final rest := by
  obtain ⟨limit, rfl⟩ := Nat.exists_eq_add_one.2 (Nat.zero_lt_of_lt enough)
  cases fills with
  | done draft => rfl
  | known updates later =>
    rw [membersBytes, List.append_assoc, readEntries_first updates.reads]
    exact readEntries_later later (Nat.lt_of_succ_lt_succ enough) rest
  | unknown new skips later =>
    rw [membersBytes, List.append_assoc, readEntries_first (reads_unknown new skips _)]
    exact readEntries_later later (Nat.lt_of_succ_lt_succ enough) rest

/-- The members of an object as they are written. -/
theorem utf8Chars_writeMembers (members : List (String × Value)) :
    Text.utf8Chars (writeMembers members) =
      membersBytes (members.map fun member => (member.1, member.2.bytes)) := by
  have colon : String.utf8EncodeChar ':' = [0x3A] := rfl
  have comma : String.utf8EncodeChar ',' = [0x2C] := rfl
  have member : ∀ name : String, ∀ value : Value,
      Text.utf8Chars (writeText name ++ ':' :: value.write) = memberBytes (name, value.bytes) := by
    intro name value
    simp [memberBytes, textBytes, Value.bytes, colon]
  match members with
  | [] => rfl
  | [(name, last)] => simpa [membersBytes, laterMembersBytes, writeMembers] using member name last
  | (name, value) :: next :: others =>
    have later := utf8Chars_writeMembers (next :: others)
    have front := member name value
    simp only [writeMembers, Text.utf8Chars_append, Text.utf8Chars_cons, comma] at front ⊢
    rw [later]
    simp only [List.map_cons, membersBytes, laterMembersBytes, List.flatMap_cons, ← front]
    simp

/-- Each member takes at least one byte. -/
theorem length_le_length_membersBytes (members : List (String × List UInt8)) :
    members.length ≤ (membersBytes members).length := by
  have later : ∀ others : List (String × List UInt8),
      others.length ≤ (laterMembersBytes others).length := by
    intro others
    induction others with
    | nil => exact Nat.le_refl 0
    | cons member others ih =>
      simp only [laterMembersBytes, List.flatMap_cons, List.length_append, List.length_cons] at ih ⊢
      omega
  cases members with
  | nil => exact Nat.le_refl 0
  | cons member others =>
    have front := later others
    simp only [membersBytes, memberBytes, List.length_append, List.length_cons]
    omega

/-- **An object that was written is read as the record that its members make.** -/
theorem read_object {layout : Layout} {members : List (String × Value)} {final : layout.Draft}
    {record : layout.Record}
    (fills : Fills layout (Draft.empty layout)
      (members.map fun member => (member.1, member.2.bytes)) final)
    (complete : Draft.complete? layout final = some record) (rest : List UInt8) :
    layout.read ((Value.object members).bytes ++ rest) = .value record rest := by
  have opening : String.utf8EncodeChar '\x7b' = [0x7B] := rfl
  have closing : String.utf8EncodeChar '\x7d' = [0x7D] := rfl
  have bytes : (Value.object members).bytes ++ rest =
      0x7B :: (membersBytes (members.map fun member => (member.1, member.2.bytes)) ++
        0x7D :: rest) := by
    simp [Value.bytes, Value.write, opening, closing, utf8Chars_writeMembers]
  have spaces : ∀ more : List UInt8, dropSpaces (0x7B :: more) = 0x7B :: more := fun _ => rfl
  have enough := length_le_length_membersBytes
    (members.map fun member => (member.1, member.2.bytes))
  rw [bytes, Layout.read, spaces]
  simp only
  rw [readEntries_membersBytes fills (by rw [List.length_append]; omega), Outcome.bind_value]
  simp only [complete]

/-! ## Objects with all members in order -/

/-- Members that stand in the order of the layout, one for each of its names, with their values. -/
inductive Matches : (layout : Layout) → List (String × List UInt8) → layout.Record → Prop
  /-- No members are left on either side. -/
  | nil : Matches [] [] ()
  /-- The next member is the next of the layout. -/
  | cons {name : String} {shape : Shape} {others : Layout} {bytes : List UInt8}
      {members : List (String × List UInt8)} {value : shape.Carrier} {record : Record others}
      (reads : Reads shape.read bytes value) (later : Matches others members record) :
      Matches ((name, shape) :: others) ((name, bytes) :: members) (value, record)

/-- The draft in which every member of a record has been found. -/
def Draft.full : (layout : Layout) → layout.Record → layout.Draft
  | [], () => ()
  | _ :: others, (value, record) => (some value, Draft.full others record)

@[simp] theorem Draft.complete?_full (layout : Layout) (record : layout.Record) :
    Draft.complete? layout (Draft.full layout record) = some record := by
  induction layout with
  | nil => rfl
  | cons member others ih =>
    obtain ⟨value, record⟩ := record
    simp only [Draft.full, Draft.complete?, Option.some_or, ih]

theorem Matches.names {layout : Layout} {members : List (String × List UInt8)}
    {record : layout.Record} (same : Matches layout members record) :
    members.map (·.1) = layout.map (·.1) := by
  induction same with
  | nil => rfl
  | cons _ _ ih => rw [List.map_cons, List.map_cons, ih]

/-- Members that are none of the first of a layout leave it alone. -/
theorem Fills.behind {name : String} {shape : Shape} {others : Layout}
    {members : List (String × List UInt8)} {draft final : Draft others}
    (fills : Fills others draft members final) (different : name ∉ members.map (·.1))
    (found : Option shape.Carrier) :
    Fills ((name, shape) :: others) (found, draft) members (found, final) := by
  induction fills with
  | done draft => exact .done _
  | known updates later ih =>
    simp only [List.map_cons, List.mem_cons, not_or] at different
    exact .known (.there (Ne.symm different.1) updates) (ih different.2)
  | unknown new skips later ih =>
    simp only [List.map_cons, List.mem_cons, not_or] at different
    refine .unknown ?_ skips (ih different.2)
    simp only [List.map_cons, List.mem_cons, not_or]
    exact ⟨Ne.symm different.1, new⟩

/-- Members that stand in the order of a layout of different names fill the whole draft. -/
theorem Matches.fills {layout : Layout} {members : List (String × List UInt8)}
    {record : layout.Record} (same : Matches layout members record)
    (distinct : (layout.map (·.1)).Nodup) :
    Fills layout (Draft.empty layout) members (Draft.full layout record) := by
  induction same with
  | nil => exact .done _
  | @cons name shape others bytes members value record reads later ih =>
    simp only [List.map_cons, List.nodup_cons] at distinct
    refine .known (.here reads) ?_
    exact (ih distinct.2).behind (by rw [later.names]; exact distinct.1) _

end Layout

end DualToken.Json
