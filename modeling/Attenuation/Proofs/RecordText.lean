import Attenuation.Proofs.JsonText
import Attenuation.Proofs.RecordAnswers

/-!
# Reading records that were written

A record is written as an object with its fields in order. `Schema.Fills` follows the draft through
the members: each is a field that the draft does not have yet, and its value is read into the
draft, or stops the reader with a fault. An object whose members fill the draft, up to the last
field that may not be missing, is read back as the record of the draft.
-/

namespace Attenuation.Json

variable {δ α β : Type}

namespace Schema

/-- What members in order make of a draft. Every member is a field that the draft does not have
yet, and its value is read into the draft. The result is the draft behind the last member, or the
first fault. -/
inductive Fills (schema : Schema δ α) : δ → List (String × Value) → Except Fault δ → Prop where
  /-- No member is left. -/
  | done (draft : δ) : schema.Fills draft [] (.ok draft)
  /-- A member is read, and the others follow if it is read without a fault. -/
  | field {β : Type} {item : Reader β} {name : String} {view : δ → Option β} {put : δ → β → δ}
    {optional defaulted : Bool} {draft : δ} {value : Value} {answer : Except Fault β}
    {members : List (String × Value)} {result : β → Except Fault δ}
    (known : schema.fields.find? (fun field => field.name == name) =
      some (.keptIn name item view put optional defaulted))
    (fresh : view draft = none) (reads : item.Reads value answer)
    (others : ∀ read, answer = .ok read →
      schema.Fills (put draft read) members (result read)) :
    schema.Fills draft ((name, value) :: members) (answer >>= result)

variable {schema : Schema δ α}

/-- A member that is read without a fault is filled in. -/
theorem Fills.kept {item : Reader β} {name : String} {view : δ → Option β} {put : δ → β → δ}
    {optional defaulted : Bool} {draft : δ} {value : Value} {read : β}
    {members : List (String × Value)} {result : Except Fault δ}
    (known : schema.fields.find? (fun field => field.name == name) =
      some (.keptIn name item view put optional defaulted))
    (fresh : view draft = none) (reads : item.Reads value (.ok read))
    (others : schema.Fills (put draft read) members result) :
    schema.Fills draft ((name, value) :: members) result := by
  have step : schema.Fills draft ((name, value) :: members)
      (Except.ok read >>= fun _ => result) := by
    apply Fills.field known fresh reads
    intro found same
    cases same
    exact others
  exact step

/-- Members that fill a draft are followed as they are written in every style. -/
theorem Fills.follows {draft : δ} {members : List (String × Value)} {result : Except Fault δ}
    (fills : schema.Fills draft members result) {style : Style} (isBlank : style.IsBlank)
    (depth : Nat) : schema.Follows draft (members.map (isBlank.entry depth)) result := by
  induction fills with
  | done draft => exact .done draft
  | @field _ item name view put optional defaulted draft value answer members result known fresh
      reads others hypothesis =>
    have given :
        (RecordField.keptIn name item view put optional defaulted).given draft = false := by
      simp [RecordField.keptIn, fresh]
    have takes : schema.Takes draft (isBlank.entry depth (name, value)) (answer.map (put draft)) :=
      .field (spellsString_written name.toList) known given
        ((reads.answers isBlank depth).map (put draft))
    cases answer with
    | error fault => exact .refused takes
    | ok read => exact .taken takes (hypothesis read rfl)

/-- A record is read back as the record of the draft that its members fill. -/
theorem read_reads {members : List (String × Value)} {result : Except Fault δ}
    (fills : schema.Fills schema.blank members result)
    (complete : ∀ draft, result = .ok draft → schema.missing? draft = none) :
    schema.read.Reads (.object members) (result.map schema.finish) := by
  apply Reader.reads_of_answers
  intro style depth isBlank
  have closed : (result >>= schema.close) = result.map schema.finish := by
    cases result with
    | error fault => rfl
    | ok draft =>
      rw [ok_bind, close, complete draft rfl]
      rfl
  have answers :=
    (fills.follows isBlank (depth + 1)).read (enclosed_write_object isBlank depth members)
  rwa [closed] at answers

end Schema

end Attenuation.Json
