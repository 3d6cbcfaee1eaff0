import Attenuation.Rack.Fault

/-!
# Faults and their causes

A failure has a text and may have a cause, which is a failure again. Two of the wrappers are
transparent: a session fault and a stopped group that become the fault of an operation keep their
text and their cause. `Failure.Tells` follows causes to the last one, whatever the failures are, and
`Fault.chain` and `RackFault.chain` are what it comes to (`tells_operation`, `tells_rack`). A fault
is group stops, one in another, around one that is none, and its chain has a text for each of them
(`Fault.chain_within`).
-/

namespace Attenuation

/-- What a group stop says of itself, without what stopped the member. -/
structure GroupHalt where
  /-- The name of the group. -/
  group : String
  /-- The position of the member that failed. -/
  member : Nat
  /-- The value that was being commanded. -/
  value : Level

/-- The text of a group stop. -/
def GroupHalt.text (halt : GroupHalt) : String :=
  "group " ++ Text.quoted halt.group ++ ": set to " ++ Level.text halt.value ++
    s!" dB stopped at member {halt.member}"

/-- The group stop around the fault of the member. -/
def GroupHalt.around (halt : GroupHalt) (source : Fault) : GroupStop :=
  ⟨halt.group, halt.member, halt.value, source⟩

/-- What a group stop says of itself. -/
def GroupStop.halt (stop : GroupStop) : GroupHalt := ⟨stop.group, stop.member, stop.value⟩

/-- Whatever is passed on as a failure. -/
inductive Failure where
  /-- A driver session failed. -/
  | session (fault : SessionFault)
  /-- A group stopped. -/
  | groupStop (stop : GroupStop)
  /-- An operation on an attenuator or a group failed. -/
  | operation (fault : Fault)
  /-- A description is inconsistent. -/
  | config (fault : ConfigFault)
  /-- A file could not be read. -/
  | file (fault : FileFault)
  /-- A text could not be read. -/
  | json (fault : Json.Fault)
  /-- A rack could not be described, built or driven. -/
  | rack (fault : RackFault)

namespace Failure

/-- The text of a failure. -/
def text : Failure → String
  | .session fault => fault.message
  | .groupStop stop => stop.halt.text
  | .operation fault => fault.message
  | .config fault => fault.message
  | .file fault => fault.message
  | .json fault => fault.message
  | .rack fault => fault.message

/-- The cause that a failure names, if it names one. -/
def cause? : Failure → Option Failure
  | .groupStop stop => some (.operation stop.source)
  | .operation (.groupStopped _ _ _ source) => some (.operation source)
  | .rack (.config source) => some (.config source)
  | .rack (.operation source) => some (.operation source)
  | .rack (.file source) => some (.file source)
  | .rack (.json source) => some (.json source)
  | _ => none

/-- The texts of a failure, of its cause, of the cause of that, and so on to the last one. -/
inductive Tells : Failure → List String → Prop where
  /-- The last failure names no cause. -/
  | last {failure : Failure} (alone : failure.cause? = none) : Tells failure [failure.text]
  /-- A failure is in front of its cause. -/
  | next {failure cause : Failure} {texts : List String} (caused : failure.cause? = some cause)
    (later : Tells cause texts) : Tells failure (failure.text :: texts)

/-- Causes are followed in one way only. -/
theorem Tells.unique {failure : Failure} {texts others : List String} (one : Tells failure texts)
    (another : Tells failure others) : texts = others := by
  induction one generalizing others with
  | last alone =>
    cases another with
    | last => rfl
    | next caused => cases alone.symm.trans caused
  | next caused later ih =>
    cases another with
    | last alone => cases alone.symm.trans caused
    | next same also =>
      cases caused.symm.trans same
      rw [ih also]

/-- Failures with one text and one cause tell the same. -/
theorem Tells.congr {failure other : Failure} {texts : List String} (tells : Tells failure texts)
    (text : other.text = failure.text) (cause : other.cause? = failure.cause?) :
    Tells other texts := by
  cases tells with
  | last alone => exact text ▸ .last (cause.trans alone)
  | next caused later => exact text ▸ .next (cause.trans caused) later

/-- What an operation fault passes on as it is. -/
def passed? : Fault → Option Failure
  | .session fault => some (.session fault)
  | .groupStopped group member value source => some (.groupStop ⟨group, member, value, source⟩)
  | _ => none

/-- An operation fault that passes on another failure has its text and its cause, so that the other
one is neither lost nor told twice. -/
theorem tells_passed {fault : Fault} {inner : Failure} (passes : passed? fault = some inner)
    (texts : List String) : Tells (.operation fault) texts ↔ Tells inner texts := by
  have same : (Failure.operation fault).text = inner.text ∧
      (Failure.operation fault).cause? = inner.cause? := by
    cases fault <;> cases passes <;> exact ⟨rfl, rfl⟩
  exact ⟨fun tells => tells.congr same.1.symm same.2.symm, fun tells => tells.congr same.1 same.2⟩

/-- The causes of an operation fault are told by its chain. -/
theorem tells_chain (fault : Fault) : Tells (.operation fault) fault.chain := by
  induction fault with
  | groupStopped group member value source ih => exact .next rfl ih
  | _ => exact .last rfl

/-- Following the causes of an operation fault gives its chain. -/
theorem tells_operation (fault : Fault) (texts : List String) :
    Tells (.operation fault) texts ↔ texts = fault.chain :=
  ⟨fun tells => tells.unique (tells_chain fault), fun same => same ▸ tells_chain fault⟩

/-- Following the causes of a rack fault gives its chain. -/
theorem tells_rack (fault : RackFault) (texts : List String) :
    Tells (.rack fault) texts ↔ texts = fault.chain := by
  have chain : Tells (.rack fault) fault.chain := by
    cases fault with
    | operation source => exact .next rfl (tells_chain source)
    | config source | file source | json source => exact .next rfl (.last rfl)
    | _ => exact .last rfl
  exact ⟨fun tells => tells.unique chain, fun same => same ▸ chain⟩

end Failure

namespace Fault

/-- A fault is not the one of a stopped group. -/
def IsLeaf (fault : Fault) : Prop := ∀ stop : GroupStop, fault ≠ stop.toFault

/-- A fault within group stops, the outermost first. -/
def within (leaf : Fault) (halts : List GroupHalt) : Fault :=
  halts.foldr (fun halt source => (halt.around source).toFault) leaf

/-- Every fault is one that is not of a stopped group within group stops. -/
theorem exists_within (fault : Fault) :
    ∃ leaf halts, leaf.IsLeaf ∧ fault = within leaf halts := by
  induction fault with
  | groupStopped group member value source ih =>
    obtain ⟨leaf, halts, isLeaf, rfl⟩ := ih
    exact ⟨leaf, ⟨group, member, value⟩ :: halts, isLeaf, rfl⟩
  | _ =>
    refine ⟨_, [], ?_, rfl⟩
    intro stop same
    cases same

/-- Group stops keep the kind. -/
theorem kind_within (leaf : Fault) (halts : List GroupHalt) :
    (within leaf halts).kind = leaf.kind := by
  induction halts with
  | nil => rfl
  | cons halt rest ih => exact ih

/-- A fault that is not of a stopped group tells only itself. -/
theorem chain_of_isLeaf {leaf : Fault} (isLeaf : leaf.IsLeaf) : leaf.chain = [leaf.message] := by
  cases leaf with
  | groupStopped group member value source =>
    exact absurd rfl (isLeaf ⟨group, member, value, source⟩)
  | _ => rfl

/-- A fault that is not of a stopped group is of a session exactly when its kind is. -/
theorem isSession_of_isLeaf {leaf : Fault} (isLeaf : leaf.IsLeaf) :
    leaf.isSession ↔ ∃ fault, leaf = .session fault := by
  cases leaf with
  | groupStopped group member value source =>
    exact absurd rfl (isLeaf ⟨group, member, value, source⟩)
  | session fault => exact iff_of_true rfl ⟨fault, rfl⟩
  | _ => simp [isSession, kind]

/-- The chain of a fault within group stops has the text of each of them. -/
theorem chain_within (leaf : Fault) (halts : List GroupHalt) :
    (within leaf halts).chain = halts.map GroupHalt.text ++ leaf.chain := by
  induction halts with
  | nil => rfl
  | cons halt rest ih =>
    change halt.text :: (within leaf rest).chain = halt.text :: (rest.map GroupHalt.text ++ _)
    rw [ih]

/-- **A fault is as its innermost cause says, and its chain has every level once.** Every fault is
one that is not of a stopped group within group stops, as many as there may be. Following the causes
of a fault gives its chain, also when it is passed on as a rack fault, and a group stop tells the
same as the fault that it becomes. A fault has the kind of the innermost one and is of a session
exactly when that one is. Its chain has the text of each group stop, from the outermost in, which
says nothing of what is in it, and last the text of the innermost fault. The rack fault that it
becomes has one text more in front, which passes on the outermost one. -/
theorem causes_of_within :
    (∀ fault : Fault, ∃ leaf halts, leaf.IsLeaf ∧ fault = within leaf halts) ∧
    (∀ (fault : Fault) (texts : List String),
      Failure.Tells (.operation fault) texts ↔ texts = fault.chain) ∧
    (∀ (fault : RackFault) (texts : List String),
      Failure.Tells (.rack fault) texts ↔ texts = fault.chain) ∧
    (∀ stop : GroupStop, RackFault.ofStop stop = .operation stop.toFault ∧
      ∀ texts, Failure.Tells (.groupStop stop) texts ↔ texts = stop.toFault.chain) ∧
    ∀ (leaf : Fault) (halts : List GroupHalt), leaf.IsLeaf →
      (within leaf halts).kind = leaf.kind ∧
      ((within leaf halts).isSession ↔ ∃ fault, leaf = .session fault) ∧
      (within leaf halts).chain = halts.map GroupHalt.text ++ [leaf.message] ∧
      (within leaf halts).chain.length = halts.length + 1 ∧
      (RackFault.operation (within leaf halts)).chain =
        ("attenuator error: " ++ (within leaf halts).message) ::
          (halts.map GroupHalt.text ++ [leaf.message]) ∧
      (RackFault.operation (within leaf halts)).chain.length = halts.length + 2 := by
  refine ⟨exists_within, Failure.tells_operation, Failure.tells_rack, fun stop => ⟨rfl, ?_⟩,
    fun leaf halts isLeaf => ?_⟩
  · intro texts
    have passes : Failure.passed? stop.toFault = some (.groupStop stop) := rfl
    rw [← Failure.tells_passed passes, Failure.tells_operation]
  · have chain : (within leaf halts).chain = halts.map GroupHalt.text ++ [leaf.message] := by
      rw [chain_within, chain_of_isLeaf isLeaf]
    have kind := kind_within leaf halts
    refine ⟨kind, ?_, chain, ?_, ?_, ?_⟩
    · rw [← isSession_of_isLeaf isLeaf, isSession, kind, isSession]
    · rw [chain, List.length_append, List.length_map, List.length_singleton]
    · rw [RackFault.chain, RackFault.sources, chain]
      rfl
    · rw [RackFault.chain, RackFault.sources, chain, List.length_cons, List.length_append,
        List.length_map, List.length_singleton]

/-- Two group stops around a channel that gave no response. -/
theorem causes_of_within_unresponsive :
    ∃ fault : Fault, fault.isSession ∧ (RackFault.operation fault).chain =
      ["attenuator error: group \"north\": set to 30 dB stopped at member 2",
        "group \"north\": set to 30 dB stopped at member 2",
        "group \"uplink\": set to 30 dB stopped at member 0",
        "transport error: channel 1 did not respond"] := by
  have isLeaf : (session (.unresponsive 1)).IsLeaf := fun stop same => by cases same
  obtain ⟨-, -, -, -, nested⟩ := causes_of_within
  obtain ⟨-, ofSession, -, -, chain, -⟩ :=
    nested (session (.unresponsive 1)) [⟨"north", 2, 30.0⟩, ⟨"uplink", 0, 30.0⟩] isLeaf
  refine ⟨_, ofSession.mpr ⟨_, rfl⟩, ?_⟩
  rw [chain]
  decide +kernel

end Fault

end Attenuation
