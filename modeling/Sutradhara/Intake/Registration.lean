import Sutradhara.Foundation.Table
import Sutradhara.Receive.Source
import Sutradhara.Receive.Coverage

/-!
# Registration of an intake

`register_intake` validates a bag, annotates its records from the package index and
gives every record an ingest item.  An item is looked up by the intake and the path
as received, and that path is the logical path of a package where the index names
one.  A record that finds an item of another record takes it over.
-/

namespace Sutradhara
namespace Intake
namespace Registration

open Foundation
open Receive

/-! ## Records of a validated bag -/

/-- An entry of `packages` in a package index.  A text is `none` where the key is
missing or its value is not a string. -/
structure PackageEntry where
  logicalMemberPath : Option Text
  storedMemberPath : Option Text
  sha256 : Option Text
  profile : Option Text
  membersIsArray : Bool

/-- A package index as parsed; `packages` is `none` where it is not a list. -/
structure PackageDocument where
  profile : Option Text
  profileHash : Option Text
  packages : Option (List PackageEntry)

/-- A package of an index that the reader accepts. -/
structure IndexedPackage where
  logicalMemberPath : Text
  storedMemberPath : Text
  sha256 : Text
  profile : Option Text

section

variable (unicode : Unicode)

/-- The checks of `read_package_index` on one package.  Its own `profile` is not
looked at here. -/
def readPackage (entry : PackageEntry) : Option IndexedPackage :=
  match entry.logicalMemberPath, entry.storedMemberPath, entry.sha256 with
  | some logical, some stored, some sha256 =>
    if (canonicalizeManifestPath unicode logical).isOk &&
        (canonicalizeManifestPath unicode stored).isOk &&
        isSha256Hex sha256 && entry.membersIsArray then
      some ⟨logical, stored, sha256, entry.profile⟩
    else none
  | _, _, _ => none

/-- `read_package_index` of a parsed document. -/
def readPackageIndex (document : PackageDocument) : Option (List IndexedPackage) :=
  if document.profile = some packageProfileVersion ∧
      document.profileHash = some packageProfileHash then
    document.packages.bind fun packages => packages.mapM (readPackage unicode)
  else none

/-- What validation reads with, and the parser of a package index. -/
structure Registrar extends Platform where
  parsePackageIndex : Bytes → Option PackageDocument
  packageIndexRead_eq : ∀ content, packageIndexRead content =
    ((parsePackageIndex content).bind (readPackageIndex toUnicode)).isSome

/-- `FileReceipt` of a payload file, with what the package index says of it. -/
structure PayloadRecord extends HashReceipt where
  logicalRelpath : Option Text
  storedRelpath : Option Text
  packageProfile : Option Text
  packageIndex : Option Text

/-- `FileReceipt.as_received_relpath`; an empty logical path counts as none. -/
def PayloadRecord.asReceivedRelpath (record : PayloadRecord) : Text :=
  match record.logicalRelpath with
  | some (char :: rest) => char :: rest
  | _ => record.relpath

/-- `stored_relpath or relpath`. -/
def PayloadRecord.storedMemberPath (record : PayloadRecord) : Text :=
  match record.storedRelpath with
  | some (char :: rest) => char :: rest
  | _ => record.relpath

/-- A record that no package index speaks of. -/
def plainRecord (receipt : HashReceipt) : PayloadRecord := ⟨receipt, none, none, none, none⟩

/-- Why records are not annotated. -/
inductive AnnotationError
  | unreadable
  | path (error : PathError)
  | duplicatesStored (stored : Text)
  | sha256Mismatch (relpath expected actual : Text)
  | profileMismatch (relpath : Text) (actual : Option Text)
  | missingPayloads (stored : List Text)

/-- The first loop of `_annotate_package_records`, with the packages seen so far. -/
def packagesByStored (unicode : Unicode) : List (Text × IndexedPackage) → List IndexedPackage →
      Except AnnotationError (List (Text × IndexedPackage))
  | seen, [] => .ok seen
  | seen, package :: rest =>
    match canonicalizeManifestPath unicode package.storedMemberPath with
    | .error error => .error (.path error)
    | .ok stored =>
      if (seen.lookup stored).isSome then .error (.duplicatesStored stored)
      else packagesByStored unicode (seen ++ [(stored, package)]) rest

/-- One record of the second loop. -/
def annotateRecord (byStored : List (Text × IndexedPackage))
    (receipt : HashReceipt) : Except AnnotationError PayloadRecord :=
  match byStored.lookup receipt.relpath with
  | none => .ok (plainRecord receipt)
  | some package =>
    if package.sha256 ≠ receipt.sha256Hex then
      .error (.sha256Mismatch receipt.relpath receipt.sha256Hex package.sha256)
    else if package.profile ≠ some packageProfileVersion then
      .error (.profileMismatch receipt.relpath package.profile)
    else
      match canonicalizeManifestPath unicode package.logicalMemberPath with
      | .error error => .error (.path error)
      | .ok logical =>
        .ok ⟨receipt, some logical, some receipt.relpath,
          some packageProfileVersion, some "package-index.json".toList⟩

/-- The second loop of `_annotate_package_records`. -/
def annotateRecords (unicode : Unicode) (byStored : List (Text × IndexedPackage)) :
    List HashReceipt → Except AnnotationError (List PayloadRecord)
  | [] => .ok []
  | receipt :: rest =>
    (annotateRecord unicode byStored receipt).bind fun record =>
      (annotateRecords unicode byStored rest).map (record :: ·)

/-- `_annotate_package_records`. -/
def annotatePackageRecords (packages : List IndexedPackage)
    (receipts : List HashReceipt) : Except AnnotationError (List PayloadRecord) :=
  (packagesByStored unicode [] packages).bind fun byStored =>
    (annotateRecords unicode byStored receipts).bind fun records =>
      let missing := (byStored.map Prod.fst).filter fun stored =>
        !(receipts.map HashReceipt.relpath).contains stored
      if missing = [] then .ok records
      else .error (.missingPayloads (missing.insertionSort fun first second => first ≤ second))

end

variable (registrar : Registrar)

/-- The records of a bag: annotated where there is a package index. -/
def annotatedRecords (bag : Bag) (receipts : List HashReceipt) :
    Except AnnotationError (List PayloadRecord) :=
  match bag.root "package-index.json".toList with
  | .missing => .ok (receipts.map plainRecord)
  | .notRegular => .error .unreadable
  | .file content =>
    match (registrar.parsePackageIndex content).bind (readPackageIndex registrar.toUnicode) with
    | none => .error .unreadable
    | some packages => annotatePackageRecords registrar.toUnicode packages receipts

/-! ## Validation -/

/-- What registration is given: the bag, the texts of `intake.json`, the name of the
directory and the class that the caller asks for. -/
structure IntakeContext where
  bag : Bag
  sentinel : List (Text × Text)
  rootName : Text
  requestedClass : Option Text

/-- A text that is neither missing nor empty. -/
def truthy : Option Text → Option Text
  | some (char :: rest) => some (char :: rest)
  | _ => none

/-- `_ValidatedPayload`, with the class that the bag names. -/
structure ValidatedPayload where
  intakeId : Text
  bagClass : Option Text
  records : List PayloadRecord
  valid : Bool
  complete : Bool
  manifestDigest : Option Text

/-- The digest of the manifest, if it is a file. -/
def manifestDigest (bag : Bag) : Option Text :=
  match bag.root "manifest-sha256.txt".toList with
  | .file content => some (registrar.sha256 content)
  | _ => none

/-- `_validate_payload` of a bag. -/
def validatePayload (context : IntakeContext) : ValidatedPayload :=
  let result := validateBag registrar.toPlatform context.bag
  let annotated := annotatedRecords registrar context.bag result.actualRecords
  let valid := result.valid && annotated.isOk
  let label (labelKey sentinelKey : String) :=
    (truthy (result.metadata.lookup labelKey.toList)).or
      (truthy (context.sentinel.lookup sentinelKey.toList))
  { intakeId := (label "Intake-Id" "intake_id").getD context.rootName
    bagClass := label "Artifactclass" "artifactclass"
    records := if valid then annotated.toOption.getD [] else []
    valid
    complete := result.complete
    manifestDigest := manifestDigest registrar context.bag }

/-! ## The catalog -/

/-- `IntakeStatus`. -/
inductive IntakeStatus
  | receiving
  | verifying
  | quarantined
  | registered
  deriving DecidableEq

structure IntakeRow where
  intakeId : Text
  artifactclass : Text
  status : IntakeStatus
  manifestDigest : Option Text

structure LogicalAsset where
  contentSha256 : Text
  sizeBytes : Nat

/-- The texts of `item_metadata` that come from the record. -/
structure ItemMetadata where
  sha256 : Text
  storedMemberPath : Text
  logicalMemberPath : Option Text
  packageProfile : Option Text
  packageIndexPath : Option Text

structure IngestItem where
  intakeId : Text
  asReceivedPath : Text
  virtualPath : Text
  logicalAssetHash : Text
  sizeBytes : Nat
  artifactclass : Text
  metadata : ItemMetadata

/-- The unique key of an item. -/
def IngestItem.key (item : IngestItem) : Text × Text := (item.intakeId, item.asReceivedPath)

/-- The tables that registration reads and writes. -/
structure Catalog where
  intakes : Table IntakeRow.intakeId
  assets : Table LogicalAsset.contentSha256
  items : Table IngestItem.key

section

variable (catalog : Catalog) (intakeId artifactclass : Text) (status : IntakeStatus)
  (record : PayloadRecord)

/-- The items of an intake. -/
def Catalog.itemsOf : List IngestItem :=
  catalog.items.rows.filter fun item => item.intakeId = intakeId

/-- Why a registration is not carried out. -/
inductive RegisterError
  | artifactclassMismatch (bag requested : Text)
  | artifactclassRequired
  | registeredIntakeInvalid (intakeId : Text)
  | fingerprintMismatch (intakeId : Text)
  | manifestNotRegular
  | missingLogicalAsset (item : Text × Text)
  | assetNotInserted (sha256 : Text)
  | sizeMismatch (sha256 : Text) (catalog received : Nat)

/-! ## Registering records -/

/-- The metadata of a record. -/
def recordMetadata : ItemMetadata where
  sha256 := record.sha256Hex
  storedMemberPath := record.storedMemberPath
  logicalMemberPath := record.logicalRelpath
  packageProfile := record.packageProfile
  packageIndexPath := record.packageIndex

/-- `{**old, **new}`: what a record does not speak of stays. -/
def ItemMetadata.merge (old new : ItemMetadata) : ItemMetadata where
  sha256 := new.sha256
  storedMemberPath := new.storedMemberPath
  logicalMemberPath := new.logicalMemberPath.or old.logicalMemberPath
  packageProfile := new.packageProfile.or old.packageProfile
  packageIndexPath := new.packageIndexPath.or old.packageIndexPath

/-- The item of a record that finds none. -/
def newItem : IngestItem where
  intakeId := intakeId
  asReceivedPath := record.asReceivedRelpath
  virtualPath := record.asReceivedRelpath
  logicalAssetHash := record.sha256Hex
  sizeBytes := record.sizeBytes
  artifactclass := artifactclass
  metadata := recordMetadata record

/-- What a record makes of the item that it finds. -/
def takeOver : Rewrite IngestItem.key where
  apply item :=
    { item with
      virtualPath := (truthy (some item.virtualPath)).getD record.asReceivedRelpath
      logicalAssetHash := record.sha256Hex
      sizeBytes := record.sizeBytes
      artifactclass := artifactclass
      metadata := item.metadata.merge (recordMetadata record) }
  keeps _ := rfl

/-- `_insert_logical_asset_if_absent`: the asset is read back after the insert. -/
def insertLogicalAssetIfAbsent (assets : Table LogicalAsset.contentSha256)
    (record : PayloadRecord) :
    Except RegisterError (Table LogicalAsset.contentSha256 × LogicalAsset) :=
  let inserted :=
    if absent : assets.find? record.sha256Hex = none then
      assets.insert ⟨record.sha256Hex, record.sizeBytes⟩ absent
    else assets
  match inserted.find? record.sha256Hex with
  | none => .error (.assetNotInserted record.sha256Hex)
  | some asset => .ok (inserted, asset)

/-- An asset has the size of the record. -/
def checkSize (asset : LogicalAsset) (record : PayloadRecord) : Except RegisterError Unit :=
  if asset.sizeBytes ≠ record.sizeBytes then
    .error (.sizeMismatch record.sha256Hex asset.sizeBytes record.sizeBytes)
  else .ok ()

/-- The asset of a record whose item is there already. -/
def existingAsset :
    Except RegisterError LogicalAsset :=
  match catalog.assets.find? record.sha256Hex with
  | none => .error (.missingLogicalAsset (intakeId, record.asReceivedRelpath))
  | some asset => .ok asset

/-- `_register_payload_record`. -/
def registerPayloadRecord : Except RegisterError Catalog :=
  if absent : catalog.items.find? (intakeId, record.asReceivedRelpath) = none then
    (insertLogicalAssetIfAbsent catalog.assets record).bind fun inserted =>
      (checkSize inserted.2 record).map fun _ =>
        { catalog with
          assets := inserted.1
          items := catalog.items.insert (newItem intakeId artifactclass record) absent }
  else
    (existingAsset catalog intakeId record).bind fun asset =>
      (checkSize asset record).map fun _ =>
        { catalog with
          items := catalog.items.update (intakeId, record.asReceivedRelpath)
            (takeOver artifactclass record) }

/-- The loop of `register_intake`. -/
def registerPayloadRecords (intakeId artifactclass : Text) :
    Catalog → List PayloadRecord → Except RegisterError Catalog
  | catalog, [] => .ok catalog
  | catalog, record :: rest =>
    (registerPayloadRecord catalog intakeId artifactclass record).bind fun next =>
      registerPayloadRecords intakeId artifactclass next rest

/-! ## Registering an intake -/

/-- The row of an intake with a new class, status and digest. -/
def rewriteIntake (digest : Option Text → Option Text) : Rewrite IntakeRow.intakeId where
  apply row :=
    { row with
      artifactclass := artifactclass
      status := status
      manifestDigest := digest row.manifestDigest }
  keeps _ := rfl

/-- `_upsert_intake`. -/
def upsertIntake : Catalog :=
  if absent : catalog.intakes.find? intakeId = none then
    { catalog with
      intakes := catalog.intakes.insert ⟨intakeId, artifactclass, status, none⟩ absent }
  else
    { catalog with
      intakes := catalog.intakes.update intakeId (rewriteIntake artifactclass status id) }

/-- The row of an intake that has been decided. -/
def settleIntake (digest : Option Text) : Catalog :=
  { catalog with
    intakes := catalog.intakes.update intakeId
      (rewriteIntake artifactclass status fun _ => digest) }

end

/-- `IntakeRegisterOutcome`. -/
structure IntakeRegisterOutcome where
  intakeId : Text
  status : IntakeStatus
  itemCount : Nat
  reason : Option String

/-- `_resolve_artifactclass`. -/
def resolveArtifactclass (bagClass requested : Option Text) : Except RegisterError Text :=
  match truthy bagClass, truthy requested with
  | some bag, some requested =>
    if bag ≠ requested then .error (.artifactclassMismatch bag requested) else .ok bag
  | some bag, none => .ok bag
  | none, some requested => .ok requested
  | none, none => .error .artifactclassRequired

section

variable (catalog : Catalog) (validated : ValidatedPayload)

/-- `_handle_registered_intake`: the items are not looked at. -/
def handleRegisteredIntake (existing : IntakeRow) (artifactclass : Text) :
    Except RegisterError (Catalog × IntakeRegisterOutcome) :=
  if !validated.valid then .error (.registeredIntakeInvalid existing.intakeId)
  else if existing.manifestDigest = validated.manifestDigest ∧
      existing.artifactclass = artifactclass then
    .ok (catalog, ⟨existing.intakeId, .registered,
      (catalog.itemsOf existing.intakeId).length, some "already-registered"⟩)
  else .error (.fingerprintMismatch existing.intakeId)

/-- The part of `register_intake` for an intake that is not registered. -/
def admitIntake (artifactclass : Text) : Except RegisterError (Catalog × IntakeRegisterOutcome) :=
  if !validated.valid then
    .ok (settleIntake (upsertIntake catalog validated.intakeId artifactclass .quarantined)
        validated.intakeId artifactclass .quarantined validated.manifestDigest,
      ⟨validated.intakeId, .quarantined, 0,
        some (if validated.complete then "bag-invalid" else "bag-incomplete")⟩)
  else
    (registerPayloadRecords validated.intakeId artifactclass
      (upsertIntake catalog validated.intakeId artifactclass .verifying)
      validated.records).map fun registered =>
        (settleIntake registered validated.intakeId artifactclass .registered
          validated.manifestDigest,
        ⟨validated.intakeId, .registered, validated.records.length, none⟩)

/-- The row of an intake that is registered already. -/
def registeredRow (intakeId : Text) : Option IntakeRow :=
  (catalog.intakes.find? intakeId).filter fun row => row.status = .registered

/-- A manifest that exists and is not a file cannot be digested. -/
def checkManifest (bag : Bag) : Except RegisterError Unit :=
  match bag.root "manifest-sha256.txt".toList with
  | .notRegular => .error .manifestNotRegular
  | _ => .ok ()

/-- `register_intake`. -/
def registerIntake (context : IntakeContext) :
    Except RegisterError (Catalog × IntakeRegisterOutcome) :=
  let validated := validatePayload registrar context
  (checkManifest context.bag).bind fun _ =>
    (resolveArtifactclass validated.bagClass context.requestedClass).bind fun artifactclass =>
        match registeredRow catalog validated.intakeId with
        | some existing => handleRegisteredIntake catalog validated existing artifactclass
        | none => admitIntake catalog validated artifactclass

end

/-! ## What registration is for -/

/-- The items of an intake are those of its payload files, one for each, with the
digest of the file as asset and the size of the file. -/
structure Registered (platform : Platform) (entries : List PayloadEntry)
    (catalog : Catalog) (intakeId : Text) : Prop where
  own : ((catalog.itemsOf intakeId).map fun item => (item.logicalAssetHash, item.sizeBytes)).Perm
    ((payloadFiles entries).map fun file => (platform.sha256 file.2, file.2.length))
  count : (catalog.itemsOf intakeId).length = (payloadFiles entries).length

/-- A registration that reports an intake registered has lost no file. -/
def RegistrationLaw : Prop :=
  ∀ (registrar : Registrar) (catalog catalog' : Catalog) (context : IntakeContext)
    (outcome : IntakeRegisterOutcome) (entries : List PayloadEntry),
    context.bag.payload = some entries →
    registerIntake registrar catalog context = .ok (catalog', outcome) →
    outcome.status = .registered →
    Registered registrar.toPlatform entries catalog' outcome.intakeId

/-- What an item records of a file. -/
def IngestItem.content (item : IngestItem) : Text × Nat := (item.logicalAssetHash, item.sizeBytes)

/-- What a record says of its file. -/
def PayloadRecord.content (record : PayloadRecord) : Text × Nat :=
  (record.sha256Hex, record.sizeBytes)

/-- The records that a later one displaces, because it has the same path as received. -/
def displaced : List PayloadRecord → List PayloadRecord
  | [] => []
  | record :: rest =>
    if ∃ later ∈ rest, later.asReceivedRelpath = record.asReceivedRelpath then
      record :: displaced rest
    else displaced rest

/-- The items that an intake has at paths of no record. -/
def strayItems (catalog : Catalog) (intakeId : Text) (records : List PayloadRecord) :
    List IngestItem :=
  (catalog.itemsOf intakeId).filter fun item =>
    ¬ ∃ record ∈ records, record.asReceivedRelpath = item.asReceivedPath

/-- What the catalog has of the intake before fits the records.  A registered intake is
left alone, so its items have the contents of the records; otherwise stray items stand
in for displaced records, and commonly there are neither. -/
def Accounted (catalog : Catalog) (validated : ValidatedPayload) : Prop :=
  match registeredRow catalog validated.intakeId with
  | some _ => ((catalog.itemsOf validated.intakeId).map IngestItem.content).Perm
      (validated.records.map PayloadRecord.content)
  | none => ((strayItems catalog validated.intakeId validated.records).map
      IngestItem.content).Perm ((displaced validated.records).map PayloadRecord.content)

end Registration
end Intake
end Sutradhara
