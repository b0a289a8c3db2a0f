import Sutradhara.Foundation.OrderedMap
import Sutradhara.Foundation.Process

/-!
# The key registry

A registry directory holds, for each recipient-key epoch, a state file, a public
file and, for epochs of this host, a private file.  Creating, importing and retiring
an epoch are processes of file operations: a new file is created exclusively and
then filled, a state file is truncated and then written.  Timestamps, random draws
and the external key tool are inputs.  The registry is a production one, which
refuses epochs of the deterministic test mode.
-/

namespace Sutradhara
namespace Keys

open Foundation

abbrev Bytes := List UInt8

/-! ## Names and files -/

/-- `KEY_DOMAINS`, in the order of their names. -/
inductive Domain
  | archive
  | backup
  | hdcache
  | recovery
  deriving DecidableEq

def Domain.rank : Domain → Nat
  | .archive => 0
  | .backup => 1
  | .hdcache => 2
  | .recovery => 3

/-- A validated key id: the domain and the number that its hexadecimal suffix
denotes. -/
structure KeyId where
  domain : Domain
  suffix : Nat
  deriving DecidableEq

/-- The order of the file names. -/
instance : LT KeyId where
  lt first second :=
    first.domain.rank < second.domain.rank ∨
      first.domain = second.domain ∧ first.suffix < second.suffix

instance : DecidableLT KeyId := fun first second =>
  inferInstanceAs (Decidable (first.domain.rank < second.domain.rank ∨
    first.domain = second.domain ∧ first.suffix < second.suffix))

/-- `_slot_index_for_domain`. -/
def slotIndexForDomain (domain : Domain) : Nat := if domain = .recovery then 1 else 0

/-- The `key_kind` of a state. -/
inductive KeyKind
  | keypair
  | publicOnly
  deriving DecidableEq

/-- The `generation` of a state. -/
inductive Generation
  | missing
  | number (value : Nat)
  | wrong

/-- The object in a state file.  A field that is missing or has another type is
absent. -/
structure StateDoc where
  keyId : Option KeyId
  domain : Option Domain
  createdAt : Option Nat
  active : Option Bool
  generation : Generation
  deterministicTest : Option Bool
  keyKind : Option KeyKind

/-- An object without the fields that are read. -/
def StateDoc.blank : StateDoc := ⟨none, none, none, none, .missing, none, none⟩

/-- What a state file contains: no JSON object, or an object, which may be empty. -/
inductive StateFile
  | invalid
  | object (doc : Option StateDoc)

/-- A key file with the process that created it. -/
structure KeyFile where
  creator : Nat
  content : Bytes

/-- The files of a registry directory.  State files are in the order of their names. -/
structure Directory where
  privates : KeyId → Option KeyFile
  publics : KeyId → Option KeyFile
  states : List (KeyId × StateFile)

/-! ## File operations -/

inductive Op
  | listStates
  | readState (key : KeyId)
  | stateExists (key : KeyId)
  | readPublic (key : KeyId)
  | publicExists (key : KeyId)
  | readPrivate (key : KeyId)
  | privateExists (key : KeyId)
  | createPrivate (key : KeyId)
  | fillPrivate (key : KeyId) (data : Bytes)
  | zeroizePrivate (key : KeyId)
  | unlinkPrivate (key : KeyId)
  | createPublic (key : KeyId)
  | fillPublic (key : KeyId) (data : Bytes)
  | truncateState (key : KeyId)
  | writeState (key : KeyId) (doc : StateDoc)

/-- What an operation answers.  An exclusive creation answers whether it succeeded. -/
abbrev Op.Answer : Op → Type
  | .listStates => List KeyId
  | .readState _ => Option StateFile
  | .stateExists _ => Bool
  | .readPublic _ => Option Bytes
  | .publicExists _ => Bool
  | .readPrivate _ => Option Bytes
  | .privateExists _ => Bool
  | .createPrivate _ => Bool
  | .createPublic _ => Bool
  | _ => Unit

/-- Fill a file through the descriptor of the process that created it. -/
def fill (index : Nat) (data : Bytes) (file : Option KeyFile) : Option KeyFile :=
  file.map fun old => if old.creator = index then { old with content := data } else old

namespace Directory

variable (dir : Directory) (key : KeyId) (file : Option KeyFile)

def setPrivate : Directory := { dir with privates := Function.update dir.privates key file }

def setPublic : Directory := { dir with publics := Function.update dir.publics key file }

def setState (file : StateFile) : Directory :=
  { dir with states := OrderedMap.insert key file dir.states }

/-- The effect and the answer of an operation of a process. -/
def effect (index : Nat) (dir : Directory) : (op : Op) → Directory × op.Answer
  | .listStates => (dir, dir.states.map Prod.fst)
  | .readState key => (dir, dir.states.lookup key)
  | .stateExists key => (dir, (dir.states.lookup key).isSome)
  | .readPublic key => (dir, (dir.publics key).map KeyFile.content)
  | .publicExists key => (dir, (dir.publics key).isSome)
  | .readPrivate key => (dir, (dir.privates key).map KeyFile.content)
  | .privateExists key => (dir, (dir.privates key).isSome)
  | .createPrivate key =>
    if (dir.privates key).isSome then (dir, false)
    else (dir.setPrivate key (some ⟨index, []⟩), true)
  | .fillPrivate key data => (dir.setPrivate key (fill index data (dir.privates key)), ())
  | .zeroizePrivate key =>
    (dir.setPrivate key ((dir.privates key).map fun file =>
      { file with content := List.replicate file.content.length 0 }), ())
  | .unlinkPrivate key => (dir.setPrivate key none, ())
  | .createPublic key =>
    if (dir.publics key).isSome then (dir, false)
    else (dir.setPublic key (some ⟨index, []⟩), true)
  | .fillPublic key data => (dir.setPublic key (fill index data (dir.publics key)), ())
  | .truncateState key => (dir.setState key .invalid, ())
  | .writeState key doc => (dir.setState key (.object (some doc)), ())

end Directory

/-! ## The key tool -/

/-- The recipient key codec.  The tool may fail. -/
structure Codec where
  /-- `derive_public` of the private file of a key. -/
  derivePublic : KeyId → Bytes → Nat → Option Bytes
  /-- `_parse_public_key`: the key id and the slot index. -/
  parsePublic : Bytes → Option (KeyId × Nat)
  /-- The inspection of a public file succeeds and agrees with its structure. -/
  inspects : Bytes → Bool

/-- `_derive_public_payload`: the derived file names its key and slot. -/
def Codec.derivePublicPayload (codec : Codec) (key : KeyId) (seed : Bytes) : Option Bytes :=
  (codec.derivePublic key seed (slotIndexForDomain key.domain)).filter fun payload =>
    codec.parsePublic payload = some (key, slotIndexForDomain key.domain)

/-! ## Results and faults -/

/-- `KeyEpoch`. -/
structure KeyEpoch where
  keyId : KeyId
  createdAt : Nat
  active : Bool

inductive Fault
  | unknownEpoch (key : KeyId)
  | invalidState (key : KeyId)
  | stateIdentity (key : KeyId)
  | createdAtInvalid (key : KeyId)
  | activeInvalid (key : KeyId)
  | generationInvalid
  | markerMissing (key : KeyId)
  | testEpochRefused (key : KeyId)
  | publicUnreadable
  | publicIdentity (key : KeyId)
  | notPublicOnly (key : KeyId)
  | forbiddenPrivate (key : KeyId)
  | codecIdentity
  | notKeypair (key : KeyId)
  | privateUnavailable (key : KeyId)
  | privateLength (key : KeyId) (length : Nat)
  | derivationFailed (key : KeyId)
  | materialMismatch (key : KeyId)
  | multipleActive (domain : Domain)
  | noActiveEpoch (domain : Domain)
  | epochRetired (key : KeyId)
  | recoveryDomain
  | domainMismatch (key : KeyId)
  | notRecovery (key : KeyId)
  | wrongSlot (slot : Nat)
  | fileExists (key : KeyId)
  | drawsExhausted

/-- A process over the registry. -/
abbrev Task (Value : Type) : Type := Process Op Op.Answer Fault Value

/-- The task of one file operation. -/
abbrev onFile (op : Op) : Task op.Answer := Process.perform op

open Process

/-! ## Reading -/

section

variable (codec : Codec) (domain : Domain) (key : KeyId) (generation createdAt : Nat)
  (doc : StateDoc) (payload : Bytes)

/-- `_read_state`.  A missing file reads as the empty object. -/
def readStateDoc : Task (Option StateDoc) := do
  match ← onFile (.readState key) with
  | none => pure none
  | some .invalid => .raised (.invalidState key)
  | some (.object doc) => pure doc

/-- `_state_generation`. -/
def stateGeneration : Generation → Task Nat
  | .missing => pure 0
  | .number value => pure value
  | .wrong => .raised .generationInvalid

/-- The checks of `_validated_epoch` on the state alone. -/
def checkState : Task KeyEpoch := do
  require (doc.keyId = some key && doc.domain = some key.domain) (.stateIdentity key)
  match doc.createdAt with
  | none => .raised (.createdAtInvalid key)
  | some createdAt =>
    match doc.active with
    | none => .raised (.activeInvalid key)
    | some active => do
        let _ ← stateGeneration doc.generation
        match doc.deterministicTest with
        | none => .raised (.markerMissing key)
        | some true => .raised (.testEpochRefused key)
        | some false => pure ⟨key, createdAt, active⟩

/-- The private half of `_validated_epoch` in a hot domain. -/
def checkKeypair : Task (Option Bytes) := do
  match ← onFile (.readPrivate key) with
  | none => .raised (.privateUnavailable key)
  | some seed => do
      require (seed.length = 32) (.privateLength key seed.length)
      match codec.derivePublicPayload key seed with
      | none => .raised (.derivationFailed key)
      | some derived => do
          require (derived = payload) (.materialMismatch key)
          pure (some seed)

/-- The private half of `_validated_epoch` in the recovery domain. -/
def checkPublicOnly : Task (Option Bytes) := do
  let forbidden ← onFile (.privateExists key)
  require (!forbidden) (.forbiddenPrivate key)
  require (codec.inspects payload) .codecIdentity
  pure none

/-- The kind of an epoch fits its domain, and its files fit together. -/
def checkMaterial : Task (Option Bytes) :=
  if key.domain = .recovery then do
    require (doc.keyKind = some .publicOnly) (.notPublicOnly key)
    checkPublicOnly codec key payload
  else do
    require (doc.keyKind = some .keypair) (.notKeypair key)
    checkKeypair codec key payload

/-- `_validated_epoch` with the state that it has read. -/
def checkEpoch : Task (KeyEpoch × Option Bytes) := do
  let epoch ← checkState key doc
  match ← onFile (.readPublic key) with
  | none => .raised (.unknownEpoch key)
  | some payload => do
      match codec.parsePublic payload with
      | none => .raised .publicUnreadable
      | some identity => do
          require (identity = (key, slotIndexForDomain key.domain)) (.publicIdentity key)
          let seed ← checkMaterial codec key doc payload
          pure (epoch, seed)

/-- `_validated_epoch`. -/
def validatedEpoch : Task (KeyEpoch × Option Bytes) := do
  match ← readStateDoc key with
  | none => .raised (.unknownEpoch key)
  | some doc => checkEpoch codec key doc

/-- `get_epoch`. -/
def getEpoch : Task KeyEpoch := do
  let result ← validatedEpoch codec key
  pure result.1

/-- The loop of `_states_for_domain`. -/
def collectStates (codec : Codec) (domain : Domain) : List KeyId → Task (List (KeyId × StateDoc))
  | [] => pure []
  | key :: rest => do
      let state ← readStateDoc key
      let _ ← getEpoch codec key
      let others ← collectStates codec domain rest
      match state with
      | some doc => if doc.domain = some domain then pure ((key, doc) :: others) else pure others
      | none => pure others

/-- `_states_for_domain`. -/
def statesForDomain : Task (List (KeyId × StateDoc)) := do
  let keys ← onFile .listStates
  collectStates codec domain keys

/-- Read epochs one after another. -/
def getEpochs (codec : Codec) : List KeyId → Task (List KeyEpoch)
  | [] => pure []
  | key :: rest => do
      let epoch ← getEpoch codec key
      let others ← getEpochs codec rest
      pure (epoch :: others)

/-- The keys of the states that are marked active. -/
def activeKeys (states : List (KeyId × StateDoc)) : List KeyId :=
  (states.filter fun state => state.2.active = some true).map Prod.fst

/-- `_active_epoch_for_domain`. -/
def activeEpochForDomain : Task (Option KeyEpoch) := do
  let states ← statesForDomain codec domain
  let active ← getEpochs codec (activeKeys states)
  require (active.length ≤ 1) (.multipleActive domain)
  pure active.head?

/-- The generations of the states, all of them valid. -/
def generations : List (KeyId × StateDoc) → Task (List Nat)
  | [] => pure []
  | state :: rest => do
      let generation ← stateGeneration state.2.generation
      let others ← generations rest
      pure (generation :: others)

/-- `_next_generation`. -/
def nextGeneration : Task Nat := do
  let states ← statesForDomain codec domain
  let numbers ← generations states
  pure (numbers.foldl (fun next number => max next (number + 1)) 0)

/-! ## Writing -/

/-- Thirty-two random bytes. -/
structure Seed where
  bytes : Bytes
  size : bytes.length = 32

/-- `_write_private_json`. -/
def writePrivateJson : Task Unit := do
  onFile (.truncateState key)
  onFile (.writeState key doc)

/-- The draws of `_new_seed`: the first one whose state file does not exist. -/
def newKeyId (domain : Domain) : List Nat → Task KeyId
  | [] => .raised .drawsExhausted
  | suffix :: rest => do
      let taken ← onFile (.stateExists ⟨domain, suffix⟩)
      if taken then newKeyId domain rest else pure ⟨domain, suffix⟩

/-- The state of a new hot epoch. -/
def createdState : StateDoc where
  keyId := some key
  domain := some key.domain
  createdAt := some createdAt
  active := some true
  generation := .number generation
  deterministicTest := some false
  keyKind := some .keypair

/-- The cleanup of `create_epoch` when the public file exists. -/
def withdrawPrivate : Task Unit := do
  onFile (.zeroizePrivate key)
  onFile (.unlinkPrivate key)
  .raised (.fileExists key)

/-- The public file and the state of a new epoch. -/
def publishEpoch (doc : StateDoc) : Task Unit := do
  let published ← onFile (.createPublic key)
  if published then do
    onFile (.fillPublic key payload)
    writePrivateJson key doc
  else withdrawPrivate key

/-- The files of a new epoch, one after another. -/
def writeEpoch (seed payload : Bytes) (doc : StateDoc) : Task Unit := do
  let created ← onFile (.createPrivate key)
  require created (.fileExists key)
  onFile (.fillPrivate key seed)
  publishEpoch key payload doc

/-- `create_epoch`. -/
def createEpoch (draws : List Nat) (seed : Seed) (now : Nat) : Task KeyEpoch := do
  require (domain ≠ .recovery) .recoveryDomain
  match ← activeEpochForDomain codec domain with
  | some existing => pure existing
  | none => do
      let generation ← nextGeneration codec domain
      let key ← newKeyId domain draws
      match codec.derivePublicPayload key seed.bytes with
      | none => .raised (.derivationFailed key)
      | some payload => do
          writeEpoch key seed.bytes payload (createdState key generation now)
          pure ⟨key, now, true⟩

/-- The state of an imported epoch. -/
def importedState : StateDoc where
  keyId := some key
  domain := some .recovery
  createdAt := some createdAt
  active := some true
  generation := .number generation
  deterministicTest := some false
  keyKind := some .publicOnly

/-- Retire the other epochs that were read as active. -/
def retireOthers (key : KeyId) : List (KeyId × StateDoc) → Task Unit
  | [] => pure ()
  | (other, doc) :: rest => do
      if other = key ∨ doc.active ≠ some true then pure ()
      else writePrivateJson other { doc with active := some false }
      retireOthers key rest

/-- The public file of an import: compare it, or write it. -/
def placePublic : Task Unit := do
  let there ← onFile (.publicExists key)
  if there then do
    let present ← onFile (.readPublic key)
    require (present = some payload) (.materialMismatch key)
  else do
    let created ← onFile (.createPublic key)
    require created (.fileExists key)
    onFile (.fillPublic key payload)

/-- The generation of an import. -/
def importGeneration : Option StateDoc → Task Nat
  | some doc => stateGeneration doc.generation
  | none => nextGeneration codec .recovery

/-- The part of `import_public_epoch` that writes. -/
def activateImport (previous : Option StateDoc) (now : Nat) : Task KeyEpoch := do
  placePublic key payload
  let generation ← importGeneration codec previous
  let createdAt := (previous.bind StateDoc.createdAt).getD now
  writePrivateJson key (importedState key generation createdAt)
  let states ← statesForDomain codec .recovery
  retireOthers key states
  pure ⟨key, createdAt, true⟩

/-- `import_public_epoch`. -/
def importPublicEpoch (now : Nat) : Task KeyEpoch := do
  match codec.parsePublic payload with
  | none => .raised .publicUnreadable
  | some (key, slot) => do
      require (codec.inspects payload) .codecIdentity
      require (key.domain = .recovery) (.notRecovery key)
      require (slot = slotIndexForDomain .recovery) (.wrongSlot slot)
      let forbidden ← onFile (.privateExists key)
      require (!forbidden) (.forbiddenPrivate key)
      let previous ← readStateDoc key
      if previous.isSome then do
        let _ ← getEpoch codec key
        activateImport codec key payload previous now
      else activateImport codec key payload previous now

/-- `retire_epoch`, with whether the private key is preserved. -/
def retireEpoch : Task (KeyEpoch × Bool) := do
  let epoch ← getEpoch codec key
  let state ← readStateDoc key
  writePrivateJson key { state.getD .blank with active := some false }
  let preserved ← onFile (.privateExists key)
  pure ({ epoch with active := false }, preserved)

end

/-! ## Calls -/

inductive Call
  | create (domain : Domain) (draws : List Nat) (seed : Seed) (now : Nat)
  | importPublic (payload : Bytes) (now : Nat)
  | retire (key : KeyId)

/-- What a call does. -/
def Call.task (codec : Codec) : Call → Task KeyEpoch
  | .create domain draws seed now => createEpoch codec domain draws seed now
  | .importPublic payload now => importPublicEpoch codec payload now
  | .retire key => do
      let result ← retireEpoch codec key
      pure result.1

/-! ## Files after an operation -/

namespace Directory

section

variable (dir : Directory)

variable {key : KeyId} {file : Option KeyFile}

@[simp] theorem privates_setPrivate_self : (dir.setPrivate key file).privates key = file := by
  simp [setPrivate]

theorem privates_setPrivate_of_ne (different : other ≠ key) :
    (dir.setPrivate key file).privates other = dir.privates other := by
  simp [setPrivate, different]

@[simp] theorem publics_setPublic_self : (dir.setPublic key file).publics key = file := by
  simp [setPublic]

theorem publics_setPublic_of_ne (different : other ≠ key) :
    (dir.setPublic key file).publics other = dir.publics other := by
  simp [setPublic, different]

@[simp] theorem lookup_setState_self (file : StateFile) :
    (dir.setState key file).states.lookup key = some file := by
  simp [setState, OrderedMap.lookup_insert]

theorem lookup_setState_of_ne (file : StateFile) (different : other ≠ key) :
    (dir.setState key file).states.lookup other = dir.states.lookup other := by
  simp [setState, OrderedMap.lookup_insert, different]

end

end Directory

/-! ## Processes that only read -/

section Reading

variable (codec : Codec)

/-- The process only reads, whoever runs it. -/
abbrev ReadOnly {Value : Type} (task : Task Value) : Prop :=
  ∀ index, task.Reads (Directory.effect index)

theorem readOnly_bind (first : ReadOnly task) (second : ∀ value, ReadOnly (next value)) :
    ReadOnly (task >>= next) :=
  fun index => reads_bind (first index) fun value => second value index

theorem readOnly_require (condition : Bool) (fault : Fault) : ReadOnly (require condition fault) :=
  fun _ => reads_require condition fault

theorem readOnly_pure : ReadOnly (pure value) := fun _ => trivial

theorem readOnly_raised : ReadOnly (.raised fault : Task Value) :=
  fun _ => trivial

/-- An operation that leaves the files as they are. -/
theorem readOnly_onFile (idle : ∀ index dir, (Directory.effect index dir op).1 = dir) :
    ReadOnly (onFile op) :=
  fun index => ⟨idle index, fun _ => trivial⟩

variable (key : KeyId)

theorem readOnly_readStateDoc : ReadOnly (readStateDoc key) := by
  refine readOnly_bind (readOnly_onFile fun _ _ => rfl) fun answer => ?_
  cases answer with
  | none => exact readOnly_pure
  | some file =>
    cases file with
    | invalid => exact readOnly_raised
    | object doc => exact readOnly_pure

theorem readOnly_stateGeneration : ReadOnly (stateGeneration generation) := by
  cases generation with
  | missing => exact readOnly_pure
  | number value => exact readOnly_pure
  | wrong => exact readOnly_raised

variable {doc : StateDoc}

theorem readOnly_checkState : ReadOnly (checkState key doc) := by
  refine readOnly_bind (readOnly_require _ _) fun _ => ?_
  cases doc.createdAt with
  | none => exact readOnly_raised
  | some createdAt =>
    cases doc.active with
    | none => exact readOnly_raised
    | some active =>
      refine readOnly_bind readOnly_stateGeneration fun _ => ?_
      cases doc.deterministicTest with
      | none => exact readOnly_raised
      | some marker =>
        cases marker with
        | true => exact readOnly_raised
        | false => exact readOnly_pure

variable {payload : Bytes}

theorem readOnly_checkKeypair : ReadOnly (checkKeypair codec key payload) := by
  refine readOnly_bind (readOnly_onFile fun _ _ => rfl) fun answer => ?_
  cases answer with
  | none => exact readOnly_raised
  | some seed =>
    refine readOnly_bind (readOnly_require _ _) fun _ => ?_
    cases codec.derivePublicPayload key seed with
    | none => exact readOnly_raised
    | some derived => exact readOnly_bind (readOnly_require _ _) fun _ => readOnly_pure

theorem readOnly_checkPublicOnly : ReadOnly (checkPublicOnly codec key payload) := by
  refine readOnly_bind (readOnly_onFile fun _ _ => rfl) fun _ => ?_
  refine readOnly_bind (readOnly_require _ _) fun _ => ?_
  exact readOnly_bind (readOnly_require _ _) fun _ => readOnly_pure

theorem readOnly_checkMaterial : ReadOnly (checkMaterial codec key doc payload) := by
  unfold checkMaterial
  split
  · exact readOnly_bind (readOnly_require _ _) fun _ => readOnly_checkPublicOnly codec key
  · exact readOnly_bind (readOnly_require _ _) fun _ => readOnly_checkKeypair codec key

theorem readOnly_checkEpoch : ReadOnly (checkEpoch codec key doc) := by
  refine readOnly_bind (readOnly_checkState key) fun epoch => ?_
  refine readOnly_bind (readOnly_onFile fun _ _ => rfl) fun answer => ?_
  cases answer with
  | none => exact readOnly_raised
  | some payload =>
    dsimp only
    cases codec.parsePublic payload with
    | none => exact readOnly_raised
    | some identity =>
      refine readOnly_bind (readOnly_require _ _) fun _ => ?_
      exact readOnly_bind (readOnly_checkMaterial codec key) fun _ => readOnly_pure

theorem readOnly_validatedEpoch : ReadOnly (validatedEpoch codec key) := by
  refine readOnly_bind (readOnly_readStateDoc key) fun state => ?_
  cases state with
  | none => exact readOnly_raised
  | some doc => exact readOnly_checkEpoch codec key

theorem readOnly_getEpoch : ReadOnly (getEpoch codec key) :=
  readOnly_bind (readOnly_validatedEpoch codec key) fun _ => readOnly_pure

variable (domain : Domain) (doc : StateDoc) (payload : Bytes)

theorem readOnly_collectStates : ReadOnly (collectStates codec domain keys) := by
  induction keys with
  | nil => exact readOnly_pure
  | cons key rest ih =>
    refine readOnly_bind (readOnly_readStateDoc key) fun state => ?_
    refine readOnly_bind (readOnly_getEpoch codec key) fun _ => ?_
    refine readOnly_bind ih fun others => ?_
    cases state with
    | none => exact readOnly_pure
    | some doc =>
      dsimp only
      split
      · exact readOnly_pure
      · exact readOnly_pure

theorem readOnly_statesForDomain : ReadOnly (statesForDomain codec domain) :=
  readOnly_bind (readOnly_onFile fun _ _ => rfl) fun _ => readOnly_collectStates codec domain

theorem readOnly_generations : ReadOnly (generations states) := by
  induction states with
  | nil => exact readOnly_pure
  | cons state rest ih =>
    exact readOnly_bind readOnly_stateGeneration fun _ =>
      readOnly_bind ih fun _ => readOnly_pure

theorem readOnly_nextGeneration : ReadOnly (nextGeneration codec domain) :=
  readOnly_bind (readOnly_statesForDomain codec domain) fun _ =>
    readOnly_bind readOnly_generations fun _ => readOnly_pure

theorem readOnly_importGeneration (previous : Option StateDoc) :
    ReadOnly (importGeneration codec previous) := by
  cases previous with
  | none => exact readOnly_nextGeneration codec .recovery
  | some doc => exact readOnly_stateGeneration

end Reading

end Keys
end Sutradhara
