import Attenuation.Json.Record
import Attenuation.Proofs.JsonAnswers

/-!
# Records read from JSON values

What a record makes of objects and of lists. `Schema.Takes` says what one member does to a draft:
an unknown one is passed over, a field is read into the draft, and a second value of a field is
refused. `Schema.Follows` follows the draft through the members of an object and
`Schema.FollowsList` through the items of a list, up to the first fault. Both determine what the
reader answers, and both exist for every JSON value, so the reader of a record has an answer to
every JSON value too.
-/

namespace Attenuation.Json

variable {δ α β : Type}

namespace Schema

variable {schema : Schema δ α}

/-- What a member of an object does to a draft. -/
inductive Takes (schema : Schema δ α) (draft : δ) (entry : Entry) : Except Fault δ → Prop where
  /-- The name of the member is no text. -/
  | unnamed {fault : Fault}
    (refused : ∀ rest, readString.run (entry.name ++ '"' :: rest) = .error fault) :
    schema.Takes draft entry (.error fault)
  /-- An unknown member is passed over. -/
  | unknown {name : String} (spelled : SpellsString name.toList entry.name)
    (unknown : schema.fields.find? (fun field => field.name == name) = none)
    (json : IsJson entry.value) : schema.Takes draft entry (.ok draft)
  /-- A field that the draft has is refused at its name. -/
  | again {name : String} {field : RecordField δ} (spelled : SpellsString name.toList entry.name)
    (known : schema.fields.find? (fun field => field.name == name) = some field)
    (given : field.given draft) :
    schema.Takes draft entry (.error (.misshapen (.duplicateField name)))
  /-- A field that the draft does not have is read into it. -/
  | field {name : String} {field : RecordField δ} {answer : Except Fault δ}
    (spelled : SpellsString name.toList entry.name)
    (known : schema.fields.find? (fun field => field.name == name) = some field)
    (fresh : field.given draft = false) (answers : (field.read draft).Answers entry.value answer) :
    schema.Takes draft entry answer

/-- A member is read as it does to the draft. -/
theorem Takes.run {draft : δ} {entry : Entry} {answer : Except Fault δ}
    (takes : schema.Takes draft entry answer) {rest : List Char} (ends : EndsNumber rest) :
    (schema.readMember draft).run (entry.text ++ rest) = answer.map (·, rest) := by
  simp only [Entry.text, List.cons_append, List.append_assoc]
  unfold readMember
  rw [run_bind_ok (run_advance _ _)]
  cases takes with
  | unnamed refused =>
    rw [StateT.run_bind, refused]
    rfl
  | unknown spelled unknown json =>
    rw [run_bind_ok (run_readString_spelled spelled _), unknown]
    dsimp only
    rw [run_bind_ok (run_readColon entry.gapBlank _),
      run_bind_ok (run_skipValue json entry.behindBlank ends)]
    rfl
  | again spelled known given =>
    rw [run_bind_ok (run_readString_spelled spelled _), known]
    dsimp only
    rw [if_pos given]
    rfl
  | field spelled known fresh answers =>
    rw [run_bind_ok (run_readString_spelled spelled _), known]
    dsimp only
    rw [if_neg (by simp [fresh]), run_bind_ok (run_readColon entry.gapBlank _)]
    exact answers entry.behind rest entry.behindBlank ends

/-- What the members of an object make of a draft, up to the first fault. -/
inductive Follows (schema : Schema δ α) : δ → List Entry → Except Fault δ → Prop where
  /-- No member is left. -/
  | done (draft : δ) : schema.Follows draft [] (.ok draft)
  /-- A member is refused. -/
  | refused {draft : δ} {entry : Entry} {entries : List Entry} {fault : Fault}
    (takes : schema.Takes draft entry (.error fault)) :
    schema.Follows draft (entry :: entries) (.error fault)
  /-- The other members follow on a draft. -/
  | taken {draft next : δ} {entry : Entry} {entries : List Entry} {result : Except Fault δ}
    (takes : schema.Takes draft entry (.ok next)) (others : schema.Follows next entries result) :
    schema.Follows draft (entry :: entries) result

/-- The closing bracket ends the members of an object. -/
theorem run_peekMember_last (first : Bool) {blanks : List Char} (blank : AllSpace blanks)
    (rest : List Char) :
    (peekMember first).run (blanks ++ '\x7d' :: rest) = .ok (false, '\x7d' :: rest) := by
  unfold peekMember
  rw [run_bind_ok (run_peek blank rfl _)]
  rfl

/-- The first member is found behind white space. -/
theorem run_peekMember_front {blanks : List Char} (blank : AllSpace blanks) (entry : Entry)
    (rest : List Char) :
    (peekMember true).run (blanks ++ (entry.text ++ rest)) = .ok (true, entry.text ++ rest) := by
  unfold peekMember
  exact run_bind_ok (@run_peek _ blank '"' rfl _) _

/-- A further member is found behind a comma. -/
theorem run_peekMember_comma {behind before : List Char} (back : AllSpace behind)
    (front : AllSpace before) (entry : Entry) (rest : List Char) :
    (peekMember false).run (behind ++ ',' :: (before ++ (entry.text ++ rest))) =
      .ok (true, entry.text ++ rest) := by
  unfold peekMember
  rw [run_bind_ok (run_peek back rfl _)]
  dsimp only
  rw [if_neg (by decide), if_neg (by decide), if_pos rfl, run_bind_ok (run_advance _ _)]
  exact run_bind_ok (@run_peek _ front '"' rfl _) _

/-- Further members are read one after the other, up to the closing bracket. -/
theorem Follows.run_further {draft : δ} {entries : List Entry} {result : Except Fault δ}
    (follows : schema.Follows draft entries result) {text : List Char}
    (further : Further (entries.map Entry.text) text) (rest : List Char) :
    ∀ fuel, entries.length < fuel → (schema.readMembers fuel false draft).run
      (text ++ '\x7d' :: rest) = result.map (·, rest) := by
  induction follows generalizing text with
  | done draft =>
    intro fuel enough
    obtain ⟨fuel, rfl⟩ := Nat.exists_eq_add_of_lt enough
    cases further with
    | last blank =>
      rw [readMembers, run_bind_ok (run_peekMember_last false blank rest)]
      rfl
  | @refused draft entry entries fault takes =>
    intro fuel enough
    obtain ⟨spare, rfl⟩ := Nat.exists_eq_add_of_lt enough
    cases further with
    | more back front others =>
      have ends := @Further.endsNumber _ _ others '\x7d' rfl rest
      rw [readMembers]
      simp only [List.append_assoc, List.cons_append]
      rw [run_bind_ok (run_peekMember_comma back front entry _), if_pos rfl,
        run_bind (takes.run ends)]
      rfl
  | @taken draft next entry entries result takes others hypothesis =>
    intro fuel enough
    obtain ⟨spare, rfl⟩ := Nat.exists_eq_add_of_lt enough
    cases further with
    | more back front further =>
      have ends := @Further.endsNumber _ _ further '\x7d' rfl rest
      rw [readMembers]
      simp only [List.append_assoc, List.cons_append]
      rw [run_bind_ok (run_peekMember_comma back front entry _), if_pos rfl,
        run_bind (takes.run ends)]
      exact hypothesis further (entries.length + 1 + spare) (by omega)

/-- The record of a draft, or the fault of the first field that it lacks and may not lack. -/
def close (schema : Schema δ α) (draft : δ) : Except Fault α :=
  match schema.missing? draft with
  | some field => .error (.misshapen (.missingField field.name))
  | none => .ok (schema.finish draft)

/-- An object is read as the record of the draft that its members make. -/
theorem Follows.read {entries : List Entry} {result : Except Fault δ}
    (follows : schema.Follows schema.blank entries result) {text : List Char}
    (written : Enclosed '\x7b' '\x7d' (entries.map Entry.text) text) :
    schema.read.Answers text (result >>= schema.close) := by
  intro blanks rest blank ends
  have opened (inside : List Char) : schema.read.run (blanks ++ '\x7b' :: inside) =
      ((schema.readMembers (inside.length + 1) true schema.blank).run inside >>= fun read =>
        (schema.close read.1).map (·, read.2)) := by
    unfold Schema.read
    rw [run_bind_ok (run_peekValue blank rfl _), if_neg (by decide), if_pos rfl,
      run_bind_ok (run_advance _ _)]
    unfold readObject
    refine (run_bind_ok rfl _).trans ?_
    rw [StateT.run_bind]
    congr 1
    funext read
    unfold close
    cases schema.missing? read.1 <;> rfl
  have whole (inside : List Char)
      (read : (schema.readMembers (inside.length + 1) true schema.blank).run inside =
        result.map (·, rest)) :
      schema.read.run (blanks ++ '\x7b' :: inside) = (result >>= schema.close).map (·, rest) := by
    rw [opened, read]
    cases result <;> rfl
  generalize pieces : entries.map Entry.text = texts at written
  cases written with
  | empty gapBlank =>
    rw [List.map_eq_nil_iff] at pieces
    subst pieces
    cases follows
    simp only [List.append_assoc, List.cons_append, List.nil_append]
    apply whole
    rw [readMembers, run_bind_ok (run_peekMember_last true gapBlank rest)]
    rfl
  | @pieces before piece text texts front further =>
    obtain ⟨entry, entries, rfl, rfl, rfl⟩ := List.map_eq_cons_iff.mp pieces
    have ends := @Further.endsNumber _ _ further '\x7d' rfl rest
    have enough := further.length_le
    rw [List.length_map] at enough
    simp only [List.append_assoc, List.cons_append, List.nil_append]
    apply whole
    rw [readMembers, run_bind_ok (run_peekMember_front front entry _), if_pos rfl]
    cases follows with
    | refused takes =>
      rw [run_bind (takes.run ends)]
      rfl
    | taken takes others =>
      rw [run_bind (takes.run ends)]
      apply others.run_further further rest
      simp only [List.length_append, List.length_cons]
      omega

/-- What the items of a list make of a draft, up to the first fault: each is the value of the next
field. -/
inductive FollowsList (schema : Schema δ α) :
    δ → Nat → List (RecordField δ) → List (List Char) → Except Fault δ → Prop where
  /-- Every field is given. -/
  | done (draft : δ) (position : Nat) : schema.FollowsList draft position [] [] (.ok draft)
  /-- There are more items than fields. -/
  | surplus (draft : δ) (position : Nat) (value : List Char) (values : List (List Char)) :
    schema.FollowsList draft position [] (value :: values) (.error .malformed)
  /-- The list ends in front of a field without a default. -/
  | short {draft : δ} {position offset : Nat} {field : RecordField δ}
    {fields : List (RecordField δ)}
    (needed : (field :: fields).findIdx? (fun field => !field.defaulted) = some offset) :
    schema.FollowsList draft position (field :: fields) []
      (.error (.misshapen (.tooShort (position + offset) schema.expectedLength)))
  /-- The list ends in front of fields with defaults. -/
  | defaulted {draft : δ} {position : Nat} {field : RecordField δ} {fields : List (RecordField δ)}
    (spare : (field :: fields).findIdx? (fun field => !field.defaulted) = none) :
    schema.FollowsList draft position (field :: fields) [] (.ok draft)
  /-- An item is refused. -/
  | refused {draft : δ} {position : Nat} {field : RecordField δ} {fields : List (RecordField δ)}
    {value : List Char} {values : List (List Char)} {fault : Fault}
    (answers : (field.read draft).Answers value (.error fault)) :
    schema.FollowsList draft position (field :: fields) (value :: values) (.error fault)
  /-- The other items follow on a draft. -/
  | taken {draft next : δ} {position : Nat} {field : RecordField δ}
    {fields : List (RecordField δ)} {value : List Char} {values : List (List Char)}
    {result : Except Fault δ} (answers : (field.read draft).Answers value (.ok next))
    (others : schema.FollowsList next (position + 1) fields values result) :
    schema.FollowsList draft position (field :: fields) (value :: values) result

/-- The closing bracket ends a list in front of a field. -/
theorem run_readFields_last {draft : δ} {position : Nat} {fields : List (RecordField δ)}
    {result : Except Fault δ} (follows : schema.FollowsList draft position fields [] result)
    {blanks : List Char} (blank : AllSpace blanks) (rest : List Char) :
    (schema.readFields draft position fields).run (blanks ++ ']' :: rest) =
      result.map (·, rest) := by
  cases follows with
  | done =>
    unfold readFields closeList
    rw [bind_assoc, run_bind_ok (run_peek blank rfl _)]
    rfl
  | short needed =>
    unfold readFields
    rw [run_bind_ok (run_peekItem_close _ blank rest), needed]
    rfl
  | defaulted spare =>
    unfold readFields
    rw [run_bind_ok (run_peekItem_close _ blank rest), spare]
    rfl

/-- An item in front of the closing bracket is refused when no field is left. -/
theorem run_readFields_surplus (draft : δ) (position : Nat) {blanks : List Char}
    (blank : AllSpace blanks) {c : Char} (solid : isSpace c = false) (other : c ≠ ']')
    (rest : List Char) :
    (schema.readFields draft position []).run (blanks ++ c :: rest) = .error .malformed := by
  unfold readFields closeList
  rw [bind_assoc, run_bind_ok (run_peek blank solid rest)]
  dsimp only
  rw [if_neg other]
  rfl

/-- An item is read into its field, and the reader goes on behind it. -/
theorem run_readFields_item {draft : δ} {position : Nat} {field : RecordField δ}
    {fields : List (RecordField δ)} {value : List Char} {values : List (List Char)}
    {result : Except Fault δ}
    (follows : schema.FollowsList draft position (field :: fields) (value :: values) result)
    {start behind rest : List Char}
    (found : (peekItem (position = 0)).run start = .ok (true, value ++ behind))
    (ends : EndsNumber behind)
    (others : ∀ next, schema.FollowsList next (position + 1) fields values result →
      (schema.readFields next (position + 1) fields).run behind = result.map (·, rest)) :
    (schema.readFields draft position (field :: fields)).run start = result.map (·, rest) := by
  unfold readFields
  rw [run_bind_ok found, if_pos rfl]
  cases follows with
  | refused answers =>
    rw [run_bind (answers.run_front ends)]
    rfl
  | taken answers follows =>
    rw [run_bind_ok (answers.run_front ends)]
    exact others _ follows

/-- Further items are read into the fields, up to the closing bracket. -/
theorem FollowsList.run_further {text : List Char} {values : List (List Char)}
    (further : Further values text) (starts : ∀ value ∈ values, Starts value) {draft : δ}
    {position : Nat} (later : position ≠ 0) {fields : List (RecordField δ)}
    {result : Except Fault δ} (follows : schema.FollowsList draft position fields values result)
    (rest : List Char) :
    (schema.readFields draft position fields).run (text ++ ']' :: rest) =
      result.map (·, rest) := by
  induction further generalizing draft position fields with
  | last blank => exact run_readFields_last follows blank rest
  | @more behind before value text values back front others hypothesis =>
    simp only [List.append_assoc, List.cons_append]
    cases fields with
    | nil =>
      cases follows
      exact run_readFields_surplus draft position back rfl (by decide) _
    | cons field fields =>
      obtain ⟨c, letters, rfl, start⟩ := starts value List.mem_cons_self
      have found := run_peekItem_comma back front start (letters ++ (text ++ ']' :: rest))
      rw [← decide_eq_false later] at found
      apply run_readFields_item follows found (others.endsNumber rfl rest)
      intro next follows
      exact hypothesis (fun value member => starts value (List.mem_cons_of_mem _ member))
        (Nat.succ_ne_zero _) follows

/-- A list is read as the record of the draft that its items make. -/
theorem FollowsList.read {values : List (List Char)} {result : Except Fault δ}
    (follows : schema.FollowsList schema.blank 0 schema.fields values result) {text : List Char}
    (list : IsList values text) : schema.read.Answers text (result.map schema.finish) := by
  intro blanks rest blank ends
  have starts : ∀ value ∈ values, Starts value := fun value member => (list.all value member).starts
  have whole (inside : List Char)
      (read : (schema.readFields schema.blank 0 schema.fields).run inside =
        result.map (·, rest)) :
      schema.read.run (blanks ++ '[' :: inside) =
        (result.map schema.finish).map (·, rest) := by
    unfold Schema.read
    rw [run_bind_ok (run_peekValue blank rfl _), if_pos rfl, run_bind_ok (run_advance _ _),
      run_bind read]
    cases result <;> rfl
  have written := list.written
  clear list
  cases written with
  | empty gapBlank =>
    simp only [List.append_assoc, List.cons_append, List.nil_append]
    exact whole _ (run_readFields_last follows gapBlank rest)
  | @pieces before value text values front further =>
    simp only [List.append_assoc, List.cons_append, List.nil_append]
    apply whole
    obtain ⟨c, letters, rfl, start⟩ := starts value List.mem_cons_self
    generalize schema.fields = fields at follows ⊢
    cases fields with
    | nil =>
      cases follows
      rw [List.cons_append]
      exact run_readFields_surplus _ _ front (isSpace_of_startsValue start)
        (Bracket.ne_close .list start) _
    | cons field fields =>
      have found := run_peekItem_front front start (letters ++ (text ++ ']' :: rest))
      apply run_readFields_item follows found (further.endsNumber rfl rest)
      intro next follows
      exact FollowsList.run_further further
        (fun value member => starts value (List.mem_cons_of_mem _ member)) (Nat.succ_ne_zero _)
        follows rest

/-- The fields of a record are orderly: they have distinct names, each answers every JSON value, and
what is read of a field gives that field and no other. -/
structure Orderly (schema : Schema δ α) : Prop where
  /-- A field is found by its name. -/
  distinct : ∀ field ∈ schema.fields,
    schema.fields.find? (fun other => other.name == field.name) = some field
  /-- The reader of a field has an answer to every JSON value. -/
  decides : ∀ field ∈ schema.fields, ∀ draft, (field.read draft).Decides
  /-- Reading a field gives that field and no other. -/
  marks : ∀ field ∈ schema.fields, ∀ other ∈ schema.fields, ∀ draft value next,
    (field.read draft).Answers value (.ok next) →
      (other.given next ↔ other.name = field.name ∨ other.given draft)
  /-- At the start no field is given. -/
  fresh : ∀ field ∈ schema.fields, field.given schema.blank = false

section Orderly

variable (orderly : schema.Orderly)

include orderly

/-- Every member of an object does something to a draft. -/
theorem exists_takes (draft : δ) {entry : Entry} (name : IsStringBody entry.name)
    (json : IsJson entry.value) : ∃ answer, schema.Takes draft entry answer := by
  obtain ⟨value, spelled⟩ | ⟨fault, refused⟩ := name.readsOrRefuses
  · have spelled : SpellsString (String.ofList value).toList entry.name := by
      rwa [String.toList_ofList]
    cases known : schema.fields.find? (fun field => field.name == String.ofList value) with
    | none => exact ⟨_, .unknown spelled known json⟩
    | some field =>
      cases given : field.given draft with
      | true => exact ⟨_, .again spelled known given⟩
      | false =>
        obtain ⟨answer, answers⟩ :=
          orderly.decides field (List.mem_of_find?_eq_some known) draft entry.value json
        exact ⟨answer, .field spelled known given answers⟩
  · refine ⟨.error fault, .unnamed fun rest => ?_⟩
    show (readStringBody _ >>= fun entry => .ok (String.ofList entry.1, entry.2)) = _
    rw [refused]
    rfl

/-- The members of every object can be followed. -/
theorem exists_follows (draft : δ) (entries : List Entry)
    (names : ∀ entry ∈ entries, IsStringBody entry.name)
    (all : ∀ entry ∈ entries, IsJson entry.value) :
    ∃ result, schema.Follows draft entries result := by
  induction entries generalizing draft with
  | nil => exact ⟨_, .done draft⟩
  | cons entry entries hypothesis =>
    obtain ⟨answer, takes⟩ :=
      exists_takes orderly draft (names entry List.mem_cons_self) (all entry List.mem_cons_self)
    cases answer with
    | error fault => exact ⟨_, .refused takes⟩
    | ok next =>
      obtain ⟨result, others⟩ :=
        hypothesis next (fun entry member => names entry (List.mem_cons_of_mem _ member))
          fun entry member => all entry (List.mem_cons_of_mem _ member)
      exact ⟨result, .taken takes others⟩

/-- The items of every list can be followed. -/
theorem exists_followsList (draft : δ) (position : Nat) {fields : List (RecordField δ)}
    (known : fields ⊆ schema.fields) (values : List (List Char))
    (all : ∀ value ∈ values, IsJson value) :
    ∃ result, schema.FollowsList draft position fields values result := by
  induction fields generalizing draft position values with
  | nil =>
    cases values with
    | nil => exact ⟨_, .done draft position⟩
    | cons value values => exact ⟨_, .surplus draft position value values⟩
  | cons field fields hypothesis =>
    cases values with
    | nil =>
      cases needed : (field :: fields).findIdx? (fun field => !field.defaulted) with
      | none => exact ⟨_, .defaulted needed⟩
      | some offset => exact ⟨_, .short needed⟩
    | cons value values =>
      obtain ⟨first, others⟩ := List.cons_subset.mp known
      obtain ⟨answer, answers⟩ :=
        orderly.decides field first draft value (all value List.mem_cons_self)
      cases answer with
      | error fault => exact ⟨_, .refused answers⟩
      | ok next =>
        obtain ⟨result, follows⟩ := hypothesis next (position + 1) others values
          fun value member => all value (List.mem_cons_of_mem _ member)
        exact ⟨result, .taken answers follows⟩

/-- The reader of a record has an answer to every JSON value. -/
theorem read_decides : schema.read.Decides := by
  intro text json
  obtain ⟨c, letters, rfl, starts⟩ := json.starts
  by_cases list : c = '['
  · subst list
    obtain ⟨values, list⟩ := json.list_of_bracket
    obtain ⟨result, follows⟩ :=
      exists_followsList orderly schema.blank 0 (List.Subset.refl _) values list.all
    exact ⟨_, follows.read list⟩
  by_cases object : c = '\x7b'
  · subst object
    obtain ⟨entries, object⟩ := json.object_of_bracket
    obtain ⟨result, follows⟩ :=
      exists_follows orderly schema.blank entries object.names object.all
    exact ⟨_, follows.read object.written⟩
  · apply exists_answers_of_refuseValue json
    rw [if_neg list, if_neg object]

variable {draft final : δ} {entries : List Entry}

/-- A member that is taken gives its field, and no other one. -/
theorem Takes.given {entry : Entry} {next : δ} (takes : schema.Takes draft entry (.ok next))
    {field : RecordField δ} (member : field ∈ schema.fields) :
    field.given next ↔ SpellsString field.name.toList entry.name ∨ field.given draft := by
  cases takes with
  | @unknown name spelled unknown json =>
    have other : ¬ SpellsString field.name.toList entry.name := by
      intro again
      have same : field.name = name := String.toList_inj.mp (again.unique spelled)
      have none := List.find?_eq_none.mp unknown field member
      simp [same] at none
    simp [other]
  | @field name found answer spelled known fresh answers =>
    have foundMember := List.mem_of_find?_eq_some known
    have foundName : found.name = name := by simpa using List.find?_some known
    rw [orderly.marks found foundMember field member draft _ next answers, foundName]
    constructor
    · rintro (rfl | given)
      · exact .inl spelled
      · exact .inr given
    · rintro (again | given)
      · exact .inl (String.toList_inj.mp (again.unique spelled))
      · exact .inr given

/-- A member that is taken names no field that the draft has. -/
theorem Takes.fresh {entry : Entry} {next : δ} (takes : schema.Takes draft entry (.ok next))
    {field : RecordField δ} (member : field ∈ schema.fields)
    (named : SpellsString field.name.toList entry.name) :
    field.given draft = false ∧ (field.read draft).Answers entry.value (.ok next) := by
  have known := orderly.distinct field member
  cases takes with
  | @unknown name spelled unknown json =>
    cases String.toList_inj.mp (named.unique spelled)
    rw [known] at unknown
    cases unknown
  | @field name found answer spelled found' fresh answers =>
    cases String.toList_inj.mp (named.unique spelled)
    rw [known] at found'
    cases found'
    exact ⟨fresh, answers⟩

/-- A field is given behind members that are taken exactly if one of them names it or it was given
before. -/
theorem Follows.given (follows : schema.Follows draft entries (.ok final)) {field : RecordField δ}
    (member : field ∈ schema.fields) :
    field.given final ↔
      (∃ entry ∈ entries, SpellsString field.name.toList entry.name) ∨ field.given draft := by
  generalize same : Except.ok final = result at follows
  induction follows with
  | done draft =>
    cases same
    simp
  | refused => cases same
  | taken takes others hypothesis =>
    rw [hypothesis same, Takes.given orderly takes member]
    simp [or_assoc, or_comm, or_left_comm]

/-- Members that are taken name no field that the draft has. -/
theorem Follows.fresh (follows : schema.Follows draft entries (.ok final))
    {field : RecordField δ} (member : field ∈ schema.fields) {entry : Entry}
    (listed : entry ∈ entries) (named : SpellsString field.name.toList entry.name) :
    field.given draft = false := by
  generalize same : Except.ok final = result at follows
  induction follows with
  | done draft => cases listed
  | refused => cases same
  | taken takes others hypothesis =>
    obtain rfl | listed := List.mem_cons.mp listed
    · exact (Takes.fresh orderly takes member named).1
    · have later := hypothesis listed same
      have kept := (Takes.given orderly takes member).mpr
      by_contra given
      rw [Bool.not_eq_false] at given
      rw [kept (.inr given)] at later
      cases later

/-- Members that are taken do not name a field twice. -/
theorem Follows.not_twice (follows : schema.Follows draft entries (.ok final))
    {field : RecordField δ} (member : field ∈ schema.fields) {first second : Entry}
    (twice : [first, second].Sublist entries)
    (named : SpellsString field.name.toList first.name) :
    ¬ SpellsString field.name.toList second.name := by
  intro again
  generalize same : Except.ok final = result at follows
  induction follows with
  | done draft => cases twice
  | refused => cases same
  | taken takes others hypothesis =>
    cases twice with
    | cons _ twice => exact hypothesis twice same
    | cons_cons _ later =>
      cases same
      have listed := List.singleton_sublist.mp later
      have fresh := Follows.fresh orderly others member listed again
      rw [(Takes.given orderly takes member).mpr (.inl named)] at fresh
      cases fresh

/-- The value of a field among members that are taken is read without a fault. -/
theorem Follows.answers (follows : schema.Follows draft entries (.ok final))
    {field : RecordField δ} (member : field ∈ schema.fields) {entry : Entry}
    (listed : entry ∈ entries) (named : SpellsString field.name.toList entry.name) :
    ∃ before after, (field.read before).Answers entry.value (.ok after) := by
  generalize same : Except.ok final = result at follows
  induction follows with
  | done draft => cases listed
  | refused => cases same
  | taken takes others hypothesis =>
    obtain rfl | listed := List.mem_cons.mp listed
    · exact ⟨_, _, (Takes.fresh orderly takes member named).2⟩
    · exact hypothesis listed same

end Orderly

/-- The value of a field among items that are taken is read without a fault. -/
theorem FollowsList.answers {draft final : δ} {position : Nat} {fields : List (RecordField δ)}
    {values : List (List Char)}
    (follows : schema.FollowsList draft position fields values (.ok final)) {offset : Nat}
    {field : RecordField δ} (known : fields[offset]? = some field) {value : List Char}
    (listed : values[offset]? = some value) :
    ∃ before after, (field.read before).Answers value (.ok after) := by
  generalize same : Except.ok final = result at follows
  induction follows generalizing offset with
  | done | surplus => cases known
  | short | defaulted => cases listed
  | refused => cases same
  | taken answers others hypothesis =>
    cases offset with
    | zero =>
      cases known
      cases listed
      exact ⟨_, _, answers⟩
    | succ offset => exact hypothesis known listed same

end Schema

end Attenuation.Json
