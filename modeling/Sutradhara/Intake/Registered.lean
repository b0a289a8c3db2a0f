import Sutradhara.Intake.Registration
import Sutradhara.Intake.Uploads

/-!
# Files and their ingest items

A record that is registered has an item at its path as received with its digest and
its size, and no other item changes.  So at the end of the loop an intake has the items
of those records that no later one displaces, and the items that it had at other paths.
A package whose logical path is the path of another file displaces it: both records are
filed under one item.
-/

namespace Sutradhara
namespace Intake
namespace Registration

open Foundation List
open Foundation.Raising
open Receive PayloadRecord

/-! ## Annotation keeps the receipts -/

theorem toHashReceipt_of_annotateRecord
    (annotated : annotateRecord unicode byStored receipt = .ok record) :
    record.toHashReceipt = receipt := by
  unfold annotateRecord at annotated
  cases indexed : byStored.lookup receipt.relpath with
  | none =>
    rw [indexed] at annotated
    cases annotated
    rfl
  | some package =>
    rw [indexed] at annotated
    dsimp only at annotated
    split_ifs at annotated
    cases logical : canonicalizeManifestPath unicode package.logicalMemberPath with
    | error error =>
      rw [logical] at annotated
      cases annotated
    | ok path =>
      rw [logical] at annotated
      cases annotated
      rfl

/-- An index that the reader accepts is used for the annotation. -/
theorem annotatedRecords_of_read
    {registrar : Registrar}
    {bag : Bag}
    {content : Bytes}
    {packages : List IndexedPackage}
    (found : bag.root "package-index.json".toList = .file content)
    (read : (registrar.parsePackageIndex content).bind
      (readPackageIndex registrar.toUnicode) = some packages)
    (receipts : List HashReceipt) : annotatedRecords registrar bag receipts =
      annotatePackageRecords registrar.toUnicode packages receipts := by
  simp only [annotatedRecords, found, read]

theorem map_toHashReceipt_of_annotateRecords
    (annotated : annotateRecords unicode byStored receipts = .ok records) :
    records.map toHashReceipt = receipts := by
  induction receipts generalizing records with
  | nil =>
    cases annotated
    rfl
  | cons receipt rest ih =>
    obtain ⟨record, first, later⟩ := exists_of_bind_eq_ok annotated
    obtain ⟨others, annotatedRest, rfl⟩ := exists_of_map_eq_ok later
    rw [map_cons, toHashReceipt_of_annotateRecord first, ih annotatedRest]

/-- Whatever the package index says, there is one record for every receipt. -/
theorem map_toHashReceipt_of_annotatedRecords
    (annotated : annotatedRecords registrar bag receipts = .ok records) :
    records.map toHashReceipt = receipts := by
  cases found : bag.root "package-index.json".toList with
  | missing =>
    rw [annotatedRecords, found] at annotated
    cases annotated
    rw [map_map]
    exact map_id receipts
  | notRegular =>
    rw [annotatedRecords, found] at annotated
    cases annotated
  | file content =>
    cases read : (registrar.parsePackageIndex content).bind
        (readPackageIndex registrar.toUnicode) with
    | none =>
      simp only [annotatedRecords, found, read] at annotated
      cases annotated
    | some packages =>
      rw [annotatedRecords_of_read found read] at annotated
      obtain ⟨byStored, -, later⟩ := exists_of_bind_eq_ok annotated
      obtain ⟨others, annotatedAll, last⟩ := exists_of_bind_eq_ok later
      dsimp only at last
      split_ifs at last
      cases last
      exact map_toHashReceipt_of_annotateRecords annotatedAll

section Validated

variable {registrar : Registrar} {context : IntakeContext}

/-- A valid payload is a valid bag whose records have been annotated. -/
theorem valid_and_annotated_of_valid (valid : (validatePayload registrar context).valid = true) :
    (validateBag registrar.toPlatform context.bag).valid = true ∧
      annotatedRecords registrar context.bag
          (validateBag registrar.toPlatform context.bag).actualRecords =
        .ok (validatePayload registrar context).records := by
  have both := valid
  simp only [validatePayload, Bool.and_eq_true] at both
  refine ⟨both.1, ?_⟩
  have isValid : ((validateBag registrar.toPlatform context.bag).valid &&
      (annotatedRecords registrar context.bag
        (validateBag registrar.toPlatform context.bag).actualRecords).isOk) = true := valid
  simp only [validatePayload, isValid]
  cases annotated : annotatedRecords registrar context.bag
      (validateBag registrar.toPlatform context.bag).actualRecords with
  | error error =>
    rw [annotated] at both
    cases both.2
  | ok records => rfl

/-- The payload of a valid bag whose records are annotated. -/
theorem validatePayload_of_annotated
    {records : List PayloadRecord}
    (bagValid : (validateBag registrar.toPlatform context.bag).valid = true)
    (annotated : annotatedRecords registrar context.bag
      (validateBag registrar.toPlatform context.bag).actualRecords = .ok records) :
    (validatePayload registrar context).valid = true ∧
      (validatePayload registrar context).records = records := by
  have valid : (validatePayload registrar context).valid = true := by
    simp only [validatePayload, bagValid, annotated]
    rfl
  refine ⟨valid, ?_⟩
  have own := (valid_and_annotated_of_valid valid).2
  rw [annotated] at own
  exact (Except.ok.inj own).symm

/-- The class that the labels of a bag name. -/
theorem bagClass_of_readBagInfo
    {text : Text}
    {metadata : List (Text × Text)}
    {char : Char}
    {rest : Text}
    (found : context.bag.root "bag-info.txt".toList = .file (encodeUtf8 text))
    (read : readBagInfo registrar.toUnicode text = .ok metadata)
    (labelled : metadata.lookup "Artifactclass".toList = some (char :: rest)) :
    (validatePayload registrar context).bagClass = some (char :: rest) := by
  have whole : (validateBag registrar.toPlatform context.bag).metadata = metadata := by
    simp only [validateBag, readToString_of_root found]
    change (orReport [] .cannotReadBagInfo (readBagInfo registrar.toUnicode text)).1 = _
    rw [read]
    rfl
  simp only [validatePayload, whole, labelled]
  rfl

end Validated

/-! ## One record -/

/-- The item at the path of a record has its digest and its size. -/
def Filed (catalog : Catalog) (intakeId : Text) (record : PayloadRecord) : Prop :=
  ∃ item, catalog.items.find? (intakeId, record.asReceivedRelpath) = some item ∧
    item.logicalAssetHash = record.sha256Hex ∧ item.sizeBytes = record.sizeBytes

section Loop

variable {catalog next : Catalog} {intakeId artifactclass : Text}
  {record : PayloadRecord} {records : List PayloadRecord}

/-- What one record does to the items: it files itself and leaves the other keys. -/
theorem filed_of_registerPayloadRecord
    (done : registerPayloadRecord catalog intakeId artifactclass record = .ok next) :
    Filed next intakeId record ∧ ∀ key, key ≠ (intakeId, record.asReceivedRelpath) →
        next.items.find? key = catalog.items.find? key := by
  unfold registerPayloadRecord at done
  split_ifs at done with absent
  · obtain ⟨inserted, -, later⟩ := exists_of_bind_eq_ok done
    obtain ⟨-, -, rfl⟩ := exists_of_map_eq_ok later
    exact ⟨⟨_, catalog.items.find?_insert_self (newItem intakeId artifactclass record)
        absent, rfl, rfl⟩,
      fun key other => catalog.items.find?_insert_of_ne
        (newItem intakeId artifactclass record) absent other⟩
  · obtain ⟨asset, -, later⟩ := exists_of_bind_eq_ok done
    obtain ⟨-, -, rfl⟩ := exists_of_map_eq_ok later
    obtain ⟨item, found⟩ := Option.ne_none_iff_exists'.mp absent
    refine ⟨⟨(takeOver artifactclass record).apply item, ?_, rfl, rfl⟩,
      fun key other => catalog.items.find?_update_of_ne _ other⟩
    rw [Table.find?_update_self, found]
    rfl

/-- An asset that is there with the size of a record lets it be registered, whether
its path is taken or not. -/
theorem exists_registerPayloadRecord_of_asset
    {asset : LogicalAsset}
    (found : catalog.assets.find? record.sha256Hex = some asset)
    (size : asset.sizeBytes = record.sizeBytes) :
    ∃ next, registerPayloadRecord catalog intakeId artifactclass record = .ok next := by
  have sized : checkSize asset record = .ok () := if_neg (by simpa using size)
  unfold registerPayloadRecord
  split_ifs with absent
  · have inserted : insertLogicalAssetIfAbsent catalog.assets record =
        .ok (catalog.assets, asset) := by
      have present : ¬ catalog.assets.find? record.sha256Hex = none := by
        rw [found]
        exact Option.some_ne_none asset
      simp only [insertLogicalAssetIfAbsent, dif_neg present]
      rw [found]
    simp only [inserted, Except.bind, sized]
    exact ⟨_, rfl⟩
  · simp only [existingAsset, found, Except.bind, sized]
    exact ⟨_, rfl⟩

/-- A record whose asset and whose path are new is registered with its asset. -/
theorem exists_registerPayloadRecord_of_new
    (noAsset : catalog.assets.find? record.sha256Hex = none)
    (absent : catalog.items.find? (intakeId, record.asReceivedRelpath) = none) :
    ∃ next, registerPayloadRecord catalog intakeId artifactclass record = .ok next ∧
      next.assets.find? record.sha256Hex = some ⟨record.sha256Hex, record.sizeBytes⟩ := by
  have found := catalog.assets.find?_insert_self ⟨record.sha256Hex, record.sizeBytes⟩ noAsset
  have inserted : insertLogicalAssetIfAbsent catalog.assets record =
      .ok (catalog.assets.insert ⟨record.sha256Hex, record.sizeBytes⟩ noAsset,
        ⟨record.sha256Hex, record.sizeBytes⟩) := by
    simp only [insertLogicalAssetIfAbsent, dif_pos noAsset]
    rw [found]
  have sized : checkSize ⟨record.sha256Hex, record.sizeBytes⟩ record = .ok () := if_neg (by simp)
  simp only [registerPayloadRecord, dif_pos absent, inserted, Except.bind, sized]
  exact ⟨_, rfl, found⟩

/-! ## The loop -/

/-- Items at other paths stay through the loop. -/
theorem find?_of_registerPayloadRecords
    (done : registerPayloadRecords intakeId artifactclass catalog records = .ok next)
    (apart : path ∉ records.map asReceivedRelpath) :
    next.items.find? (intakeId, path) = catalog.items.find? (intakeId, path) := by
  induction records generalizing catalog with
  | nil =>
    cases done
    rfl
  | cons first rest ih =>
    obtain ⟨between, firstDone, restDone⟩ := exists_of_bind_eq_ok done
    simp only [map_cons, mem_cons, not_or] at apart
    rw [ih restDone apart.2]
    refine (filed_of_registerPayloadRecord firstDone).2 _ fun same => ?_
    exact apart.1 (congrArg Prod.snd same)

/-- The records that no later one displaces. -/
def surviving : List PayloadRecord → List PayloadRecord
  | [] => []
  | record :: rest =>
    if ∃ later ∈ rest, later.asReceivedRelpath = record.asReceivedRelpath then surviving rest
    else record :: surviving rest

theorem perm_displaced_append_surviving (records : List PayloadRecord) :
    (displaced records ++ surviving records).Perm records := by
  induction records with
  | nil => exact .nil
  | cons record rest ih =>
    rw [displaced, surviving]
    split_ifs
    · exact ih.cons record
    · exact perm_middle.trans (ih.cons record)

/-- The paths of the records are those of the ones that survive. -/
theorem mem_map_surviving : path ∈ (surviving records).map asReceivedRelpath ↔
      path ∈ records.map asReceivedRelpath := by
  induction records with
  | nil => exact Iff.rfl
  | cons record rest ih =>
    rw [surviving]
    split_ifs with later
    · rw [ih, map_cons, mem_cons, or_iff_right_of_imp]
      rintro rfl
      exact mem_map.mpr later
    · rw [map_cons, map_cons, mem_cons, mem_cons, ih]

theorem nodup_paths_surviving (records : List PayloadRecord) :
    ((surviving records).map asReceivedRelpath).Nodup := by
  induction records with
  | nil => exact nodup_nil
  | cons record rest ih =>
    rw [surviving]
    split_ifs with later
    · exact ih
    · exact nodup_cons.mpr ⟨mt (mem_map.mp ∘ mem_map_surviving.mp) later, ih⟩

/-- The records that survive are filed when the loop ends. -/
theorem filed_of_mem_surviving
    (done : registerPayloadRecords intakeId artifactclass catalog records = .ok next) :
    ∀ record ∈ surviving records, Filed next intakeId record := by
  induction records generalizing catalog with
  | nil => exact fun _ member => absurd member not_mem_nil
  | cons first rest ih =>
    obtain ⟨between, firstDone, restDone⟩ := exists_of_bind_eq_ok done
    rw [surviving]
    split_ifs with later
    · exact ih restDone
    · refine forall_mem_cons.mpr ⟨?_, ih restDone⟩
      -- no later record has this path, so the item is still the one just filed
      obtain ⟨item, found, contents⟩ := (filed_of_registerPayloadRecord firstDone).1
      have kept := find?_of_registerPayloadRecords restDone (mt mem_map.mp later)
      exact ⟨item, kept.trans found, contents⟩

/-! ## The items of an intake -/

theorem mem_itemsOf : item ∈ catalog.itemsOf intakeId ↔
      item ∈ catalog.items.rows ∧ item.intakeId = intakeId := by
  simp [Catalog.itemsOf]

/-- The items of an intake have distinct paths. -/
theorem nodup_paths_itemsOf (catalog : Catalog) (intakeId : Text) :
    ((catalog.itemsOf intakeId).map IngestItem.asReceivedPath).Nodup := by
  have keys : ((catalog.itemsOf intakeId).map IngestItem.key).Nodup :=
    catalog.items.unique.sublist (filter_sublist.map _)
  have pairs : (catalog.itemsOf intakeId).map IngestItem.key =
      ((catalog.itemsOf intakeId).map IngestItem.asReceivedPath).map
        fun path => (intakeId, path) := by
    rw [map_map]
    refine map_congr_left fun item member => ?_
    exact Prod.ext (mem_itemsOf.mp member).2 rfl
  rw [pairs] at keys
  exact keys.of_map _

theorem find?_of_mem_itemsOf (member : item ∈ catalog.itemsOf intakeId) :
    catalog.items.find? (intakeId, item.asReceivedPath) = some item :=
  (Table.find?_eq_some_iff ..).mpr
    ⟨(mem_itemsOf.mp member).1, Prod.ext (mem_itemsOf.mp member).2 rfl⟩

theorem mem_itemsOf_of_find? (found : catalog.items.find? (intakeId, path) = some item) :
    item ∈ catalog.itemsOf intakeId ∧ item.asReceivedPath = path := by
  obtain ⟨isRow, key⟩ := (Table.find?_eq_some_iff ..).mp found
  exact ⟨mem_itemsOf.mpr ⟨isRow, congrArg Prod.fst key⟩, congrArg Prod.snd key⟩

/-- After the loop an intake has its stray items and those of the records that
survive. -/
theorem perm_itemsOf_of_registerPayloadRecords
    (done : registerPayloadRecords intakeId artifactclass catalog records = .ok next) :
    ((next.itemsOf intakeId).map IngestItem.content).Perm
      ((strayItems catalog intakeId records).map IngestItem.content ++
        (surviving records).map PayloadRecord.content) := by
  let ofItem (item : IngestItem) := (item.asReceivedPath, item.content)
  let ofRecord (record : PayloadRecord) := (record.asReceivedRelpath, record.content)
  -- with their paths the entries of both lists are distinct, so members decide
  suffices same : ((next.itemsOf intakeId).map ofItem).Perm
      ((strayItems catalog intakeId records).map ofItem ++ (surviving records).map ofRecord) by
    have contents := same.map Prod.snd
    rwa [map_append, map_map, map_map, map_map] at contents
  have items : ((next.itemsOf intakeId).map ofItem).Nodup := by
    apply List.Nodup.of_map Prod.fst
    rw [map_map]
    exact nodup_paths_itemsOf next intakeId
  have both : ((strayItems catalog intakeId records).map ofItem ++
      (surviving records).map ofRecord).Nodup := by
    apply List.Nodup.of_map Prod.fst
    rw [map_append, map_map, map_map]
    refine (Nodup.append ((nodup_paths_itemsOf catalog intakeId).sublist
      (filter_sublist.map _)) (nodup_paths_surviving records) ?_)
    intro path stray survives
    obtain ⟨item, isStray, rfl⟩ := mem_map.mp stray
    exact absurd (mem_map_surviving.mp survives) (by simpa using (mem_filter.mp isStray).2)
  have filed := filed_of_mem_surviving done
  refine (perm_ext_iff_of_nodup items both).mpr fun entry => ?_
  rw [mem_append]
  constructor
  · intro member
    obtain ⟨item, isItem, rfl⟩ := mem_map.mp member
    by_cases listed : item.asReceivedPath ∈ records.map asReceivedRelpath
    · obtain ⟨record, survives, path⟩ := mem_map.mp (mem_map_surviving.mpr listed)
      obtain ⟨own, found, hash, size⟩ := filed record survives
      rw [path, find?_of_mem_itemsOf isItem, Option.some.injEq] at found
      subst found
      exact .inr (mem_map.mpr ⟨record, survives, Prod.ext path (Prod.ext hash.symm size.symm)⟩)
    · have before := (find?_of_registerPayloadRecords done listed).symm.trans
        (find?_of_mem_itemsOf isItem)
      exact .inl (mem_map_of_mem (mem_filter.mpr
        ⟨(mem_itemsOf_of_find? before).1, decide_eq_true (mt mem_map.mpr listed)⟩))
  · rintro (member | member)
    · obtain ⟨item, isStray, rfl⟩ := mem_map.mp member
      obtain ⟨isItem, apart⟩ := mem_filter.mp isStray
      exact mem_map_of_mem (mem_itemsOf_of_find? ((find?_of_registerPayloadRecords done
        (mt mem_map.mp (of_decide_eq_true apart))).trans (find?_of_mem_itemsOf isItem))).1
    · obtain ⟨record, survives, rfl⟩ := mem_map.mp member
      obtain ⟨item, found, hash, size⟩ := filed record survives
      obtain ⟨isItem, path⟩ := mem_itemsOf_of_find? found
      exact mem_map.mpr ⟨item, isItem, Prod.ext path (Prod.ext hash size)⟩

theorem itemsOf_upsertIntake :
    (upsertIntake catalog intakeId artifactclass status).itemsOf = catalog.itemsOf := by
  unfold upsertIntake
  split_ifs <;> rfl

end Loop

/-! ## Registration -/

section Registration

variable {registrar : Registrar} {catalog catalog' : Catalog} {context : IntakeContext}
  {outcome : IntakeRegisterOutcome} {entries : List PayloadEntry}

/-- A registration either finds the intake registered and leaves the catalog, or runs
the loop over the records of a valid payload. -/
theorem exists_of_registerIntake
    (done : registerIntake registrar catalog context = .ok (catalog', outcome))
    (status : outcome.status = .registered) :
    outcome.intakeId = (validatePayload registrar context).intakeId ∧
      (validatePayload registrar context).valid = true ∧
      ((∃ row, registeredRow catalog (validatePayload registrar context).intakeId = some row) ∧
          catalog' = catalog ∨
        registeredRow catalog (validatePayload registrar context).intakeId = none ∧
          ∃ artifactclass registered,
            registerPayloadRecords (validatePayload registrar context).intakeId artifactclass
              (upsertIntake catalog (validatePayload registrar context).intakeId
                artifactclass .verifying)
              (validatePayload registrar context).records = .ok registered ∧
            catalog'.items = registered.items) := by
  obtain ⟨-, -, later⟩ := exists_of_bind_eq_ok done
  obtain ⟨artifactclass, -, last⟩ := exists_of_bind_eq_ok later
  cases found : registeredRow catalog (validatePayload registrar context).intakeId with
  | some existing =>
    rw [found] at last
    have isRow := (Option.filter_eq_some_iff.mp found).1
    have own := ((Table.find?_eq_some_iff ..).mp isRow).2
    change handleRegisteredIntake _ _ _ _ = _ at last
    unfold handleRegisteredIntake at last
    split_ifs at last with invalid
    cases last
    exact ⟨own, by simpa using invalid, .inl ⟨⟨existing, rfl⟩, rfl⟩⟩
  | none =>
    rw [found] at last
    change admitIntake _ _ _ = _ at last
    unfold admitIntake at last
    split_ifs at last with invalid
    iterate 2
      · cases last
        cases status
    · obtain ⟨registered, loop, same⟩ := exists_of_map_eq_ok last
      cases same
      exact ⟨rfl, by simpa using invalid, .inr ⟨rfl, artifactclass, registered, loop, rfl⟩⟩

/-- A valid payload of a new intake is registered when its loop succeeds. -/
theorem exists_registerIntake_of_loop
    (manifest : checkManifest context.bag = .ok ())
    (resolved : resolveArtifactclass (validatePayload registrar context).bagClass
      context.requestedClass = .ok artifactclass)
    (fresh : registeredRow catalog (validatePayload registrar context).intakeId = none)
    (valid : (validatePayload registrar context).valid = true)
    (loop : registerPayloadRecords (validatePayload registrar context).intakeId artifactclass
      (upsertIntake catalog (validatePayload registrar context).intakeId artifactclass .verifying)
      (validatePayload registrar context).records = .ok registered) :
    ∃ catalog' outcome, registerIntake registrar catalog context =
      .ok (catalog', outcome) ∧ outcome.status = .registered := by
  have admitted : ∃ catalog' outcome, admitIntake catalog
      (validatePayload registrar context) artifactclass = .ok (catalog', outcome) ∧
        outcome.status = .registered := by
    rw [admitIntake, valid, loop]
    exact ⟨_, _, rfl, rfl⟩
  obtain ⟨catalog', outcome, isAdmitted, status⟩ := admitted
  refine ⟨catalog', outcome, ?_, status⟩
  simp only [registerIntake, manifest, resolved, fresh]
  exact isAdmitted

/-- A registration that reports an intake registered has an item for every file exactly
where the catalog before it fits the records. -/
theorem registered_iff_accounted
    (registrar : Registrar)
    (catalog catalog' : Catalog)
    (context : IntakeContext)
    (outcome : IntakeRegisterOutcome)
    (entries : List PayloadEntry)
    (payload : context.bag.payload = some entries)
    (done : registerIntake registrar catalog context = .ok (catalog', outcome))
    (status : outcome.status = .registered) :
    Registered registrar.toPlatform entries catalog' outcome.intakeId ↔
      Accounted catalog (validatePayload registrar context) := by
  obtain ⟨same, valid, cases⟩ := exists_of_registerIntake done status
  obtain ⟨bagValid, annotated⟩ := valid_and_annotated_of_valid valid
  have contents := perm_contents_of_valid payload bagValid
  rw [← map_toHashReceipt_of_annotatedRecords annotated, map_map] at contents
  have ofRecords : Registered registrar.toPlatform entries catalog' outcome.intakeId ↔
      ((catalog'.itemsOf outcome.intakeId).map IngestItem.content).Perm
        ((validatePayload registrar context).records.map PayloadRecord.content) :=
    ⟨fun registered => registered.own.trans contents.symm, fun own =>
      ⟨own.trans contents, by simpa using (own.trans contents).length_eq⟩⟩
  rw [ofRecords, same, Accounted]
  obtain ⟨⟨row, already⟩, rfl⟩ | ⟨fresh, artifactclass, registered, loop, items⟩ := cases
  · rw [already]
  · rw [fresh]
    have parts := (perm_displaced_append_surviving
      (validatePayload registrar context).records).map PayloadRecord.content
    have after := perm_itemsOf_of_registerPayloadRecords loop
    rw [strayItems, itemsOf_upsertIntake] at after
    rw [map_append] at parts
    rw [Catalog.itemsOf, items]
    exact (after.congr_left _).trans ((parts.congr_right _).symm.trans (perm_append_right_iff _))

end Registration

/-! ## Two files and one package -/

def nameY : FileName := ⟨encodeUtf8 ['y'], by decide⟩

theorem canonicalComponent_nameY : canonicalComponentFromBytes plainUnicode nameY.bytes = ['y'] :=
  @canonicalComponentFromBytes_encodeUtf8 plainUnicode _ (by decide)

/-- The canonical form of a name is its own canonical path. -/
theorem canonicalizeManifestPath_component
    {unicode : Unicode}
    {name : FileName}
    (component : canonicalComponentFromBytes unicode name.bytes = text) :
    canonicalizeManifestPath unicode text = .ok text := by
  have part := canonicalPart_canonicalComponentFromBytes unicode name
  rw [component] at part
  have whole := @canonicalizeManifestPath_join unicode [text] (by simpa using part) (by simp)
  rwa [withoutData_singleton, intercalate_singleton] at whole

theorem canonicalizeManifestPath_y : canonicalizeManifestPath plainUnicode ['y'] = .ok ['y'] :=
  canonicalizeManifestPath_component canonicalComponent_nameY

/-- The index names one package, the file `y`, and gives it a logical path. -/
def sampleDocument (logical : Text) : PackageDocument where
  profile := some packageProfileVersion
  profileHash := some packageProfileHash
  packages := some [⟨some logical, some ['y'], some (countingDigest [2, 3]),
    some packageProfileVersion, true⟩]

def samplePackage (logical : Text) : IndexedPackage :=
  ⟨logical, ['y'], countingDigest [2, 3], some packageProfileVersion⟩

/-- The reader accepts the index, whatever the logical path. -/
theorem readPackageIndex_sample
    (canonical : canonicalizeManifestPath plainUnicode logical = .ok logical) :
    readPackageIndex plainUnicode (sampleDocument logical) = some [samplePackage logical] := by
  have digest : isSha256Hex (countingDigest [2, 3]) = true := by decide
  have package : readPackage plainUnicode ⟨some logical, some ['y'],
      some (countingDigest [2, 3]), some packageProfileVersion, true⟩ =
        some (samplePackage logical) := by
    simp only [readPackage, canonical]
    rfl
  rw [readPackageIndex, if_pos ⟨rfl, rfl⟩]
  change [_].mapM (readPackage plainUnicode) = _
  rw [mapM_cons, package]
  rfl

/-- A registrar whose parser reads that index. -/
def sampleRegistrar (logical : Text)
    (canonical : canonicalizeManifestPath plainUnicode logical = .ok logical) :
    Registrar where
  toPlatform := plainPlatform
  parsePackageIndex _ := some (sampleDocument logical)
  packageIndexRead_eq _ := by
    change true = (readPackageIndex plainUnicode (sampleDocument logical)).isSome
    rw [readPackageIndex_sample canonical]
    rfl

/-- The files `x` and `y` with the same two bytes. -/
def twoFiles : List PayloadEntry := [⟨[nameX], .file [2, 3]⟩, ⟨[nameY], .file [2, 3]⟩]

def twoReceipts : List HashReceipt :=
  [⟨['x'], countingDigest [2, 3], 2⟩, ⟨['y'], countingDigest [2, 3], 2⟩]

def twoUnits : List SourceEntry := [⟨['x'], [2, 3]⟩, ⟨['y'], [2, 3]⟩]

def twoManifest : Text :=
  joinLines [checksumLine (countingDigest [2, 3]) "data/x".toList,
    checksumLine (countingDigest [2, 3]) "data/y".toList]

/-- The bag of the two files, with a package index. -/
def twoFileBag : Bag where
  payload := some twoFiles
  root := foundIn (withTagmanifest plainReceiver (tagFiles
    (bagInfoText (bagInfoMetadata sampleOptions 2 4 0)) twoManifest
    (packageIndexFiles (some []))))

theorem payloadRecords_twoFileBag :
    payloadRecords plainPlatform twoFileBag = (twoReceipts, []) := by
  have hashed : collectPayloadHashes plainPlatform true twoFiles = .ok twoReceipts := by
    rw [collectPayloadHashes_eq]
    · have x : canonicalPath plainPlatform.toUnicode [nameX] = ['x'] := by
        rw [canonicalPath, map_singleton, intercalate_singleton]
        exact canonicalComponent_nameX
      have y : canonicalPath plainPlatform.toUnicode [nameY] = ['y'] := by
        rw [canonicalPath, map_singleton, intercalate_singleton]
        exact canonicalComponent_nameY
      change Except.ok [fileRecord plainPlatform ([nameX], [2, 3]),
        fileRecord plainPlatform ([nameY], [2, 3])] = _
      rw [fileRecord, fileRecord, x, y]
      rfl
    · intro entry member
      rcases mem_pair.mp member with rfl | rfl
      · exact ⟨cons_ne_nil _ _, .inl ⟨_, rfl⟩⟩
      · exact ⟨cons_ne_nil _ _, .inl ⟨_, rfl⟩⟩
  change orReport [] .cannotHash (hashPayloadTreeWithPolicy plainPlatform twoFiles true) = _
  rw [hashPayloadTreeWithPolicy, hashed]
  rfl

theorem bagitManifestText_two : bagitManifestText plainUnicode
        [(['x'], countingDigest [2, 3]), (['y'], countingDigest [2, 3])] =
      .ok twoManifest := by
  have lower := (isDigest_countingDigest [2, 3]).asciiLowercase_eq
  have digest : isSha256Hex (countingDigest [2, 3]) = true := by decide
  simp only [bagitManifestText, bagitManifestLines,
    canonicalizeManifestPath_x, canonicalizeManifestPath_y]
  rfl

theorem accepted_letter
    (canonical : canonicalizeManifestPath plainUnicode [char] = .ok [char])
    (slash : char ≠ '/')
    (backslash : char ≠ '\\') : Assembly.Accepted plainUnicode [char] := by
  refine ⟨canonical, ?_, ?_, ?_⟩
  · cases char; simp [List.isPrefixOf]
  · simpa using backslash.symm
  · intro above member rooted
    have whole : [char].splitOn '/' = [[char]] := by
      simp [List.splitOn, splitOnP_cons_eq_if_modifyHead, slash]
    rw [whole] at member
    exact absurd (mem_singleton.mp member) rooted

theorem valid_twoFileBag : (validateBag plainPlatform twoFileBag).valid = true := by
  have received : ∀ unit ∈ twoUnits, Received plainReceiver unit := by
    intro unit member
    rcases mem_pair.mp member with rfl | rfl
    · exact Assembly.received_of_accepted (accepted_letter canonicalizeManifestPath_x
        (by decide) (by decide)) rfl
    · exact Assembly.received_of_accepted (accepted_letter canonicalizeManifestPath_y
        (by decide) (by decide)) rfl
  exact (@valid_of_written plainReceiver twoUnits twoFileBag twoManifest (some [])
    sampleOptions 0 twoReceipts received (by decide) payloadRecords_twoFileBag
    (List.Perm.of_eq rfl) bagitManifestText_two rfl (fun _ _ => rfl)).1

/-! ## Registering the two files -/

/-- The records of the two files: the package has its logical path. -/
def twoRecords (logical : Text) : List PayloadRecord :=
  [plainRecord ⟨['x'], countingDigest [2, 3], 2⟩,
    ⟨⟨['y'], countingDigest [2, 3], 2⟩, some logical, some ['y'],
      some packageProfileVersion, some "package-index.json".toList⟩]

def twoContext : IntakeContext := ⟨twoFileBag, [], "root".toList, none⟩

section Two

variable {logical : Text} (canonical : canonicalizeManifestPath plainUnicode logical = .ok logical)

theorem annotatedRecords_two :
    annotatedRecords (sampleRegistrar logical canonical) twoFileBag twoReceipts =
      .ok (twoRecords logical) := by
  have byStored : packagesByStored plainUnicode [] [samplePackage logical] =
      .ok [(['y'], samplePackage logical)] := by
    simp only [packagesByStored, samplePackage, canonicalizeManifestPath_y]
    rfl
  have annotated : annotateRecords plainUnicode [(['y'], samplePackage logical)]
      twoReceipts = .ok (twoRecords logical) := by
    have x : annotateRecord plainUnicode [(['y'], samplePackage logical)]
        ⟨['x'], countingDigest [2, 3], 2⟩ =
          .ok (plainRecord ⟨['x'], countingDigest [2, 3], 2⟩) := rfl
    have y : annotateRecord plainUnicode [(['y'], samplePackage logical)]
        ⟨['y'], countingDigest [2, 3], 2⟩ = .ok ⟨⟨['y'], countingDigest [2, 3], 2⟩, some logical,
          some ['y'], some packageProfileVersion, some "package-index.json".toList⟩ := by
      simp [annotateRecord, samplePackage, canonical]
    rw [twoReceipts, annotateRecords, annotateRecords, y]
    rfl
  rw [@annotatedRecords_of_read (sampleRegistrar logical canonical) twoFileBag [] _ rfl
    (readPackageIndex_sample canonical)]
  change (packagesByStored plainUnicode [] [samplePackage logical]).bind _ = _
  rw [byStored]
  change (annotateRecords plainUnicode [(['y'], samplePackage logical)] twoReceipts).bind _ = _
  rw [annotated]
  rfl

/-- What validation finds in the bag of the two files. -/
theorem validatePayload_two :
    (validatePayload (sampleRegistrar logical canonical) twoContext).valid = true ∧
      (validatePayload (sampleRegistrar logical canonical) twoContext).records =
        twoRecords logical := by
  have receipts : (validateBag plainPlatform twoFileBag).actualRecords = twoReceipts := by
    rw [actualRecords_validateBag, payloadRecords_twoFileBag]
  refine @validatePayload_of_annotated (sampleRegistrar logical canonical) twoContext _
    valid_twoFileBag ?_
  exact (congrArg (annotatedRecords (sampleRegistrar logical canonical) twoFileBag)
    receipts).trans (annotatedRecords_two canonical)

theorem bagClass_two : (validatePayload (sampleRegistrar logical canonical) twoContext).bagClass =
      some "video".toList := by
  obtain ⟨metadata, read, labels⟩ := exists_readBagInfo plainUnicode sampleOptions 2 4 0
  have labelled : metadata.lookup "Artifactclass".toList = some "video".toList :=
    labels (_, "video".toList) (mem_of_getElem? (i := 8) rfl) (by decide)
  have found : twoContext.bag.root "bag-info.txt".toList =
      .file (encodeUtf8 (bagInfoText (bagInfoMetadata sampleOptions 2 4 0))) := rfl
  exact @bagClass_of_readBagInfo (sampleRegistrar logical canonical) twoContext _ _ 'v'
    "ideo".toList found read labelled

/-- The catalog before anything is registered. -/
def emptyCatalog : Catalog := ⟨Table.empty, Table.empty, Table.empty⟩

/-- The loop over the two records succeeds on a catalog without assets and items: the
second finds the asset of the first. -/
theorem exists_registerPayloadRecords_two
    {catalog : Catalog}
    {intakeId artifactclass : Text}
    (noAssets : catalog.assets = Table.empty)
    (noItems : catalog.items = Table.empty) :
    ∃ registered, registerPayloadRecords intakeId artifactclass catalog
      (twoRecords logical) = .ok registered := by
  obtain ⟨between, first, asset⟩ := @exists_registerPayloadRecord_of_new catalog intakeId
    artifactclass (plainRecord ⟨['x'], countingDigest [2, 3], 2⟩)
    (by rw [noAssets]; rfl) (by rw [noItems]; rfl)
  obtain ⟨registered, second⟩ := @exists_registerPayloadRecord_of_asset between intakeId
    artifactclass ⟨⟨['y'], countingDigest [2, 3], 2⟩, some logical, some ['y'],
      some packageProfileVersion, some "package-index.json".toList⟩ _ asset rfl
  refine ⟨registered, ?_⟩
  rw [twoRecords, registerPayloadRecords, first]
  change (registerPayloadRecord between _ _ _).bind _ = _
  rw [second]
  rfl

/-- The bag of the two files is registered. -/
theorem exists_registerIntake_two : ∃ catalog' outcome,
      registerIntake (sampleRegistrar logical canonical) emptyCatalog twoContext =
        .ok (catalog', outcome) ∧ outcome.status = .registered := by
  obtain ⟨valid, records⟩ := validatePayload_two canonical
  have resolved : resolveArtifactclass
      (validatePayload (sampleRegistrar logical canonical) twoContext).bagClass
        twoContext.requestedClass = .ok "video".toList := by
    rw [bagClass_two]
    rfl
  have fresh : ∀ intakeId, registeredRow emptyCatalog intakeId = none := fun _ => rfl
  have noAssets : ∀ intakeId, (upsertIntake emptyCatalog intakeId "video".toList
      .verifying).assets = Table.empty := fun _ => rfl
  have noItems : ∀ intakeId, (upsertIntake emptyCatalog intakeId "video".toList
      .verifying).items = Table.empty := fun _ => rfl
  obtain ⟨registered, loop⟩ := @exists_registerPayloadRecords_two logical _
    (validatePayload (sampleRegistrar logical canonical) twoContext).intakeId
    "video".toList (noAssets _) (noItems _)
  rw [← records] at loop
  exact exists_registerIntake_of_loop rfl resolved (fresh _) valid loop

end Two

/-- A package with the logical path of another file takes its item over. -/
theorem not_registrationLaw : ¬ RegistrationLaw := by
  intro law
  obtain ⟨catalog', outcome, done, status⟩ := exists_registerIntake_two canonicalizeManifestPath_x
  have count := (law _ emptyCatalog catalog' twoContext outcome twoFiles rfl done status).count
  obtain ⟨same, -, ⟨⟨row, already⟩, -⟩ | ⟨-, artifactclass, registered, loop, items⟩⟩ :=
    exists_of_registerIntake done status
  · cases already
  -- both records are at the path `x`, so the second displaces the first
  have after := (perm_itemsOf_of_registerPayloadRecords loop).length_eq
  rw [(validatePayload_two canonicalizeManifestPath_x).2, length_map, strayItems,
    itemsOf_upsertIntake] at after
  rw [same, Catalog.itemsOf, items] at count
  have two := after.symm.trans count
  revert two
  decide

/-- A package whose logical path is its own leaves every file its item. -/
theorem registered_iff_accounted_two : ∃ catalog' outcome,
      registerIntake (sampleRegistrar ['y'] canonicalizeManifestPath_y) emptyCatalog twoContext =
        .ok (catalog', outcome) ∧
      Registered plainPlatform twoFiles catalog' outcome.intakeId := by
  obtain ⟨catalog', outcome, done, status⟩ := exists_registerIntake_two canonicalizeManifestPath_y
  refine ⟨catalog', outcome, done, (registered_iff_accounted
    (sampleRegistrar ['y'] canonicalizeManifestPath_y) emptyCatalog catalog' twoContext outcome
    twoFiles rfl done status).mpr ?_⟩
  change (List.map IngestItem.content []).Perm ((displaced _).map PayloadRecord.content)
  rw [(validatePayload_two canonicalizeManifestPath_y).2]
  decide

end Registration
end Intake
end Sutradhara
