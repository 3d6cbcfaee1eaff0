import Attenuation.Proofs.JsonText
import Attenuation.Proofs.RecordAnswers

/-!
# The spellings of a record

Which JSON values spell a record, and which are flawed. A record is spelled by an object that has
its fields in any order, with unknown members between them and with fields left out as far as that
says their value, or by a list of its fields in order, which may end early in the same way. An
object is flawed that names a field twice or leaves out a required one, and so is whatever holds a
flawed value in one of its fields. Every spelling is read as the record, and every flawed value is
refused, however deep the flaw is.
-/

namespace Attenuation.Json

variable {δ α β : Type}

/-- A field of a record with the value that is to be spelled. -/
structure FieldSpelling where
  /-- The name of the field. -/
  name : String
  /-- The texts that spell the value. -/
  spelled : List Char → Prop
  /-- The value is what is taken when the field is left out. -/
  omittable : Prop

/-- Members of an object that spell the fields of a record behind members with the names `seen`. The
fields come in any order, each once at most, and unknown members may stand between them. -/
inductive SpelledMembers (fields : List FieldSpelling) : List String → List Entry → Prop where
  /-- The fields that are left may be left out. -/
  | done {seen : List String} (omitted : ∀ field ∈ fields, field.name ∉ seen → field.omittable) :
    SpelledMembers fields seen []
  /-- A member with an unknown name. -/
  | extra {seen : List String} {entry : Entry} {entries : List Entry} {name : String}
    (named : SpellsString name.toList entry.name) (unknown : ∀ field ∈ fields, field.name ≠ name)
    (others : SpelledMembers fields seen entries) : SpelledMembers fields seen (entry :: entries)
  /-- A field that did not come yet. -/
  | field {seen : List String} {entry : Entry} {entries : List Entry} {field : FieldSpelling}
    (known : field ∈ fields) (fresh : field.name ∉ seen)
    (named : SpellsString field.name.toList entry.name) (value : field.spelled entry.value)
    (others : SpelledMembers fields (field.name :: seen) entries) :
    SpelledMembers fields seen (entry :: entries)

/-- A JSON value that spells a record. -/
inductive SpelledRecord (fields : List FieldSpelling) (text : List Char) : Prop where
  /-- An object of its fields. -/
  | object {entries : List Entry} (object : IsObject entries text)
    (members : SpelledMembers fields [] entries)
  /-- A list of its first fields. -/
  | list {values : List (List Char)} {front back : List FieldSpelling} (list : IsList values text)
    (split : fields = front ++ back) (given : List.Forall₂ FieldSpelling.spelled front values)
    (omitted : ∀ field ∈ back, field.omittable)

/-- A list that spells values one by one. -/
def SpelledList (spelled : α → List Char → Prop) (values : List α) (text : List Char) : Prop :=
  ∃ pieces, IsList pieces text ∧ List.Forall₂ spelled values pieces

/-- The texts of a value that may be null. -/
def SpelledOption (spelled : α → List Char → Prop) : Option α → List Char → Prop
  | none, text => text = ['n', 'u', 'l', 'l']
  | some value, text => spelled value text

/-- Members in the order of the fields spell the fields. -/
theorem SpelledMembers.inOrder {front back : List FieldSpelling} {entries : List Entry}
    (distinct : ((front ++ back).map FieldSpelling.name).Nodup)
    (given : List.Forall₂ (fun field entry => SpellsString field.name.toList entry.name ∧
      field.spelled entry.value) back entries) :
    SpelledMembers (front ++ back) (front.map FieldSpelling.name).reverse entries := by
  induction given generalizing front with
  | nil =>
    apply SpelledMembers.done
    intro field member absent
    rw [List.append_nil] at member
    exact absurd (List.mem_reverse.mpr (List.mem_map_of_mem member)) absent
  | @cons field entry back entries first others hypothesis =>
    have fresh : field.name ∉ (front.map FieldSpelling.name).reverse := by
      rw [List.map_append, List.nodup_append] at distinct
      rw [List.mem_reverse]
      exact fun again => distinct.2.2 _ again _ List.mem_cons_self rfl
    apply SpelledMembers.field (List.mem_append_right _ List.mem_cons_self) fresh first.1 first.2
    have next := @hypothesis (front ++ [field])
    rw [List.append_assoc, List.singleton_append] at next
    simpa using next distinct

section Written

variable {style : Style} (isBlank : style.IsBlank) (depth : Nat)

include isBlank

/-- A written object of the fields in order spells a record. -/
theorem SpelledRecord.written {fields : List FieldSpelling} {members : List (String × Value)}
    (distinct : (fields.map FieldSpelling.name).Nodup)
    (given : List.Forall₂ (fun field member => field.name = member.1 ∧
      field.spelled (member.2.write style (depth + 1))) fields members) :
    SpelledRecord fields ((Value.object members).write style depth) := by
  apply SpelledRecord.object (isObject_write isBlank members depth)
  apply @SpelledMembers.inOrder [] fields _ distinct
  rw [List.forall₂_map_right_iff]
  refine given.imp fun field member spelled => ⟨?_, spelled.2⟩
  rw [spelled.1]
  exact spellsString_written member.1.toList

/-- A written list of spellings spells a list of values. -/
theorem SpelledList.written {spelled : α → List Char → Prop} {values : List α} {form : α → Value}
    (each : ∀ value ∈ values, spelled value ((form value).write style (depth + 1))) :
    SpelledList spelled values ((Value.list (values.map form)).write style depth) := by
  refine ⟨_, isList_write isBlank (values.map form) depth, ?_⟩
  rw [List.map_map, List.forall₂_map_right_iff, List.forall₂_same]
  exact each

end Written

/-- A written value that may be missing spells an optional value. -/
theorem SpelledOption.written {spelled : α → List Char → Prop} {option : Option α}
    {form : α → Value} {style : Style} {depth : Nat}
    (each : ∀ value ∈ option, spelled value ((form value).write style depth)) :
    SpelledOption spelled option ((Value.optional form option).write style depth) := by
  cases option with
  | none => rfl
  | some value => exact each value rfl

/-- A field of a record, apart from any value. -/
structure FieldForm where
  /-- The name of the field. -/
  name : String
  /-- The field may not be left out. -/
  required : Bool
  /-- The values of the field that are flawed in themselves. -/
  flawed : List Char → Prop

/-- No value is flawed in itself. -/
def Flawless (_ : List Char) : Prop := False

/-- A JSON value that is flawed as a record. -/
inductive FlawedRecord (fields : List FieldForm) (text : List Char) : Prop where
  /-- An object names a field twice. -/
  | twice {entries : List Entry} {field : FieldForm} {first second : Entry}
    (object : IsObject entries text) (known : field ∈ fields)
    (twice : [first, second].Sublist entries)
    (named : SpellsString field.name.toList first.name)
    (again : SpellsString field.name.toList second.name)
  /-- An object leaves out a required field. -/
  | absent {entries : List Entry} {field : FieldForm} (object : IsObject entries text)
    (known : field ∈ fields) (required : field.required)
    (absent : ∀ entry ∈ entries, ¬ SpellsString field.name.toList entry.name)
  /-- An object has a flawed value in a field. -/
  | member {entries : List Entry} {field : FieldForm} {entry : Entry}
    (object : IsObject entries text) (known : field ∈ fields) (listed : entry ∈ entries)
    (named : SpellsString field.name.toList entry.name) (flawed : field.flawed entry.value)
  /-- A list has a flawed value in the place of a field. -/
  | item {values : List (List Char)} {position : Nat} {field : FieldForm} {value : List Char}
    (list : IsList values text) (known : fields[position]? = some field)
    (listed : values[position]? = some value) (flawed : field.flawed value)

/-- A list with a flawed item. -/
def FlawedList (flawed : List Char → Prop) (text : List Char) : Prop :=
  ∃ pieces, IsList pieces text ∧ ∃ piece ∈ pieces, flawed piece

/-- A list is read as the values that it spells. -/
theorem SpelledList.answers {item : Reader α} {spelled : α → List Char → Prop} {values : List α}
    {text : List Char} (list : SpelledList spelled values text)
    (each : ∀ value ∈ values, ∀ piece, spelled value piece → item.Answers piece (.ok value)) :
    (readList item).Answers text (.ok values) := by
  obtain ⟨pieces, list, given⟩ := list
  have all : List.Forall₂ item.Answers pieces (values.map Except.ok) := by
    clear list
    induction given with
    | nil => exact .nil
    | cons first others hypothesis =>
      refine .cons (each _ List.mem_cons_self _ first) (hypothesis fun value member => ?_)
      exact each value (List.mem_cons_of_mem _ member)
  have answers := readList_answers list all
  rw [List.mapM_map] at answers
  rwa [← mapM_ok values]

/-- A value that may be null is read as it is spelled. -/
theorem SpelledOption.answers {item : Reader α} {spelled : α → List Char → Prop} {value : Option α}
    {text : List Char} (option : SpelledOption spelled value text)
    (starts : ∀ value piece, spelled value piece →
      ∃ c letters, piece = c :: letters ∧ startsValue c ∧ c ≠ 'n')
    (each : ∀ value piece, spelled value piece → item.Answers piece (.ok value)) :
    (readOptional item).Answers text (.ok value) := by
  cases value with
  | none =>
    cases option
    exact readOptional_answers_null item
  | some value =>
    have answers := each value text option
    obtain ⟨c, letters, rfl, start, other⟩ := starts value text option
    exact readOptional_answers start other answers

namespace Schema

variable {schema : Schema δ α} {forms : List FieldSpelling} {held : List String → δ} {record : α}

/-- A field of a schema reads a spelled field. The draft that holds the values of a record for the
names that came so far comes to hold one more. -/
structure SpellsField (held : List String → δ) (form : FieldSpelling) (field : RecordField δ) :
    Prop where
  /-- They have one name. -/
  name : form.name = field.name
  /-- The draft has the field exactly if its name came. -/
  given : ∀ seen, field.given (held seen) = decide (form.name ∈ seen)
  /-- The value is read from each of its spellings. -/
  read : ∀ seen text, form.spelled text →
    (field.read (held seen)).Answers text (.ok (held (form.name :: seen)))
  /-- An object may leave the field out if its value says so. -/
  optional : form.omittable → field.optional
  /-- A list may end in front of the field if its value says so. -/
  defaulted : form.omittable → field.defaulted

/-- A schema reads the spellings of a record. -/
structure Spells (schema : Schema δ α) (forms : List FieldSpelling) (held : List String → δ)
    (record : α) : Prop where
  /-- At the start no name came. -/
  blank : held [] = schema.blank
  /-- Each field reads its spellings. -/
  each : List.Forall₂ (SpellsField held) forms schema.fields
  /-- The record is complete when the fields that did not come may be left out. -/
  finish : ∀ seen, (∀ form ∈ forms, form.name ∉ seen → form.omittable) →
    schema.finish (held seen) = record

/-- Spelled members are taken one after the other. -/
theorem follows_spelled (orderly : schema.Orderly)
    (each : List.Forall₂ (SpellsField held) forms schema.fields) {seen : List String}
    {entries : List Entry} (members : SpelledMembers forms seen entries)
    (all : ∀ entry ∈ entries, IsJson entry.value) :
    ∃ last, schema.Follows (held seen) entries (.ok (held last)) ∧
      ∀ form ∈ forms, form.name ∉ last → form.omittable := by
  induction members with
  | @done seen omitted => exact ⟨seen, .done _, omitted⟩
  | @extra seen entry entries name named unknown others hypothesis =>
    obtain ⟨last, follows, omitted⟩ :=
      hypothesis fun entry member => all entry (List.mem_cons_of_mem _ member)
    have notFound : schema.fields.find? (fun field => field.name == name) = none := by
      rw [List.find?_eq_none]
      intro field member
      obtain ⟨form, listed, spells⟩ := exists_mem_of_forall₂ each.flip member
      simpa [← spells.name] using unknown form listed
    have takes : schema.Takes (held seen) entry (.ok (held seen)) :=
      .unknown named notFound (all entry List.mem_cons_self)
    exact ⟨last, .taken takes follows, omitted⟩
  | @field seen entry entries form known fresh named value others hypothesis =>
    obtain ⟨last, follows, omitted⟩ :=
      hypothesis fun entry member => all entry (List.mem_cons_of_mem _ member)
    obtain ⟨field, member, spells⟩ := exists_mem_of_forall₂ each known
    have free : field.given (held seen) = false := by
      rw [spells.given]
      exact decide_eq_false fresh
    have found := orderly.distinct field member
    rw [← spells.name] at found
    exact ⟨last, .taken (.field named found free (spells.read seen _ value)) follows, omitted⟩

/-- Spelled items are taken one after the other. -/
theorem followsList_spelled {fields : List (RecordField δ)}
    {front back : List FieldSpelling} {values : List (List Char)}
    (given : List.Forall₂ FieldSpelling.spelled front values)
    (each : List.Forall₂ (SpellsField held) (front ++ back) fields)
    (omitted : ∀ form ∈ back, form.omittable) (seen : List String) (position : Nat) :
    ∃ last, schema.FollowsList (held seen) position fields values (.ok (held last)) ∧
      seen ⊆ last ∧ ∀ form ∈ front, form.name ∈ last := by
  induction given generalizing fields seen position with
  | nil =>
    refine ⟨seen, ?_, List.Subset.refl _, fun form member => nomatch member⟩
    cases each with
    | nil => exact .done _ _
    | @cons form field forms fields first others =>
      apply FollowsList.defaulted
      rw [List.findIdx?_eq_none_iff]
      intro other member
      obtain ⟨form, listed, spells⟩ :=
        exists_mem_of_forall₂ (List.Forall₂.cons first others).flip member
      simp [spells.defaulted (omitted form listed)]
  | @cons form value front values spelled given hypothesis =>
    cases each with
    | @cons _ field _ fields first others =>
      obtain ⟨last, follows, kept, named⟩ :=
        hypothesis others (form.name :: seen) (position + 1)
      refine ⟨last, .taken (first.read seen _ spelled) follows, ?_, ?_⟩
      · exact fun name member => kept (List.mem_cons_of_mem _ member)
      · intro other member
        obtain rfl | member := List.mem_cons.mp member
        · exact kept List.mem_cons_self
        · exact named other member

/-- A record is read from each of its spellings. -/
theorem Spells.answers (spells : schema.Spells forms held record) (orderly : schema.Orderly)
    {text : List Char} (spelled : SpelledRecord forms text) :
    schema.read.Answers text (.ok record) := by
  cases spelled with
  | object object members =>
    obtain ⟨last, follows, omitted⟩ := follows_spelled orderly spells.each members object.all
    rw [spells.blank] at follows
    have complete : schema.missing? (held last) = none := by
      unfold missing?
      rw [List.find?_eq_none]
      intro field member
      obtain ⟨form, listed, known⟩ := exists_mem_of_forall₂ spells.each.flip member
      by_cases came : form.name ∈ last
      · simp [known.given, came]
      · simp [known.optional (omitted form listed came)]
    have closed : schema.close (held last) = .ok record := by
      unfold close
      rw [complete, ← spells.finish last omitted]
    have answers := follows.read object.written
    rwa [ok_bind, closed] at answers
  | @list values front back list split given omitted =>
    have each := spells.each
    rw [split] at each
    obtain ⟨last, follows, -, named⟩ := followsList_spelled given each omitted [] 0
    rw [spells.blank] at follows
    have answers := follows.read list
    rwa [Except.map, spells.finish last] at answers
    intro form member absent
    rw [split] at member
    obtain front | back := List.mem_append.mp member
    · exact absurd (named form front) absent
    · exact omitted form back

end Schema

/-- A reader refuses a text, wherever it stands. -/
def Reader.Refuses (reader : Reader α) (text : List Char) : Prop :=
  ∃ fault, reader.Answers text (.error fault)

/-- A list with a flawed item is refused. -/
theorem FlawedList.refuses {item : Reader α} {flawed : List Char → Prop} {text : List Char}
    (list : FlawedList flawed text) (decides : item.Decides)
    (each : ∀ piece, flawed piece → item.Refuses piece) : (readList item).Refuses text := by
  obtain ⟨pieces, list, piece, listed, flaw⟩ := list
  obtain ⟨answers, all⟩ := exists_answers decides pieces list.all
  have failed : ∃ fault, answers.mapM id = .error fault := by
    obtain ⟨answer, member, answered⟩ := exists_mem_of_forall₂ all listed
    obtain ⟨fault, refused⟩ := each piece flaw
    cases answered.unique refused
    clear list listed all answered
    induction answers with
    | nil => cases member
    | cons first answers hypothesis =>
      rw [List.mapM_cons]
      cases first with
      | error fault => exact ⟨fault, rfl⟩
      | ok value =>
        obtain same | member := List.mem_cons.mp member
        · cases same
        · obtain ⟨fault, failed⟩ := hypothesis member
          exact ⟨fault, by rw [failed]; rfl⟩
  obtain ⟨fault, failed⟩ := failed
  have answered := readList_answers list all
  rw [failed] at answered
  exact ⟨fault, answered⟩

namespace Schema

variable {schema : Schema δ α} {forms : List FieldForm}

/-- A field of a schema refuses what is flawed. -/
structure FlawsField (form : FieldForm) (field : RecordField δ) : Prop where
  /-- They have one name. -/
  name : form.name = field.name
  /-- An object may not leave a required field out. -/
  required : form.required → field.optional = false
  /-- A flawed value is refused. -/
  refuses : ∀ draft text, form.flawed text → (field.read draft).Refuses text

/-- A field whose values are never flawed in themselves. -/
theorem FlawsField.flawless {name : String} {required : Bool} {field : RecordField δ}
    (same : name = field.name) (needed : required → field.optional = false) :
    FlawsField ⟨name, required, Flawless⟩ field := ⟨same, needed, fun _ _ flaw => flaw.elim⟩

/-- A value that is flawed as a record is refused. -/
theorem refuses_flawed (orderly : schema.Orderly)
    (each : List.Forall₂ FlawsField forms schema.fields) {text : List Char}
    (flawed : FlawedRecord forms text) : schema.read.Refuses text := by
  -- An object is refused if its members are never all taken, or leave a required field out.
  have object {entries : List Entry} (object : IsObject entries text)
      (flaw : ∀ final, schema.Follows schema.blank entries (.ok final) →
        ∃ fault, schema.close final = .error fault) : schema.read.Refuses text := by
    obtain ⟨result, follows⟩ :=
      exists_follows orderly schema.blank entries object.names object.all
    have answers := follows.read object.written
    cases result with
    | error fault => exact ⟨fault, answers⟩
    | ok final =>
      obtain ⟨fault, closed⟩ := flaw final follows
      rw [ok_bind, closed] at answers
      exact ⟨fault, answers⟩
  cases flawed with
  | twice written known twice named again =>
    obtain ⟨field, member, same⟩ := exists_mem_of_forall₂ each known
    rw [same.name] at named again
    exact object written fun final follows =>
      absurd again (Follows.not_twice orderly follows member twice named)
  | absent written known required absent =>
    obtain ⟨field, member, same⟩ := exists_mem_of_forall₂ each known
    rw [same.name] at absent
    apply object written
    intro final follows
    have given : field.given final = false := by
      rw [Bool.eq_false_iff, ne_eq, Follows.given orderly follows member]
      simpa [orderly.fresh field member] using absent
    have missing : (schema.missing? final).isSome := by
      unfold missing?
      rw [List.find?_isSome]
      exact ⟨field, member, by simp [given, same.required required]⟩
    obtain ⟨lacking, missing⟩ := Option.isSome_iff_exists.mp missing
    unfold close
    rw [missing]
    exact ⟨_, rfl⟩
  | member written known listed named flaw =>
    obtain ⟨field, member, same⟩ := exists_mem_of_forall₂ each known
    rw [same.name] at named
    apply object written
    intro final follows
    obtain ⟨before, after, answers⟩ := Follows.answers orderly follows member listed named
    obtain ⟨fault, refused⟩ := same.refuses before _ flaw
    cases answers.unique refused
  | @item values position form value list known listed flaw =>
    obtain ⟨result, follows⟩ :=
      exists_followsList orderly schema.blank 0 (List.Subset.refl _) values list.all
    have answers := follows.read list
    cases result with
    | error fault => exact ⟨fault, answers⟩
    | ok final =>
      obtain ⟨field, found, same⟩ := exists_getElem?_of_forall₂ each known
      obtain ⟨before, after, taken⟩ := follows.answers found listed
      obtain ⟨fault, refused⟩ := same.refuses before _ flaw
      cases taken.unique refused

end Schema

section Kept

variable {held : List String → δ} {name : String} {item : Reader β} {view : δ → Option β}
  {put : δ → β → δ} {optional defaulted : Bool}

/-- The value of a field whose name came, and nothing before. -/
def heldIf (name : String) (value : β) (seen : List String) : Option β :=
  if name ∈ seen then some value else none

/-- At the start nothing is held. -/
theorem heldIf_nil (name : String) (value : β) : heldIf name value [] = none :=
  if_neg List.not_mem_nil

/-- A value that came may be packed. -/
theorem map_heldIf (pack : β → α) (value : β) (seen : List String) :
    (heldIf name value seen).map pack = heldIf name (pack value) seen := by
  unfold heldIf
  split <;> rfl

/-- A field that came, or need not come, has its value. -/
theorem getD_heldIf {value fallback : β} {seen : List String}
    (came : name ∉ seen → value = fallback) :
    (heldIf name value seen).getD fallback = value := by
  unfold heldIf
  by_cases member : name ∈ seen
  · rw [if_pos member]
    rfl
  · rw [if_neg member, came member]
    rfl

/-- What is read of a kept field is put into the draft. -/
theorem RecordField.exists_put {draft next : δ} {text : List Char}
    (answers : ((RecordField.keptIn name item view put optional defaulted).read draft).Answers text
      (.ok next)) : ∃ value, next = put draft value := by
  have read := answers [] [] .nil .nil
  have unfolded : (RecordField.keptIn name item view put optional defaulted).read draft =
      item >>= fun value => pure (put draft value) := rfl
  rw [unfolded, StateT.run_bind] at read
  cases result : item.run ([] ++ (text ++ [])) with
  | error fault =>
    rw [result] at read
    cases read
  | ok found =>
    rw [result] at read
    have same : (put draft found.1, found.2) = (next, []) := Except.ok.inj read
    exact ⟨found.1, (congrArg Prod.fst same).symm⟩

/-- A kept field has an answer to every value if the reader of its values does. -/
theorem RecordField.keptIn_decides (decides : item.Decides) (draft : δ) :
    ((RecordField.keptIn name item view put optional defaulted).read draft).Decides :=
  decides.map (put draft)

/-- A kept field refuses what the reader of its values refuses. -/
theorem RecordField.keptIn_refuses {text : List Char} (refuses : item.Refuses text) (draft : δ) :
    ((RecordField.keptIn name item view put optional defaulted).read draft).Refuses text := by
  obtain ⟨fault, answers⟩ := refuses
  exact ⟨fault, answers.map (put draft)⟩

/-- A kept field reads a spelled field whose values its reader reads. -/
theorem Schema.SpellsField.keptIn {value : β} {spelled : List Char → Prop} {omittable : Prop}
    (views : ∀ seen, view (held seen) = heldIf name value seen)
    (puts : ∀ seen, put (held seen) value = held (name :: seen))
    (answers : ∀ text, spelled text → item.Answers text (.ok value))
    (spare : omittable → optional ∧ defaulted) :
    SpellsField held ⟨name, spelled, omittable⟩
      (.keptIn name item view put optional defaulted) where
  name := rfl
  given seen := by
    show (view (held seen)).isSome = _
    rw [views]
    unfold heldIf
    by_cases member : name ∈ seen <;> simp [member]
  read seen text given := by
    have read := (answers text given).map (put (held seen))
    rwa [Except.map, puts] at read
  optional omitted := (spare omitted).1
  defaulted omitted := (spare omitted).2

end Kept

end Attenuation.Json
