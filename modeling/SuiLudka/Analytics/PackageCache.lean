import SuiLudka.Analytics.PackageStore

/-!
# The package store is a cache of the full node

Two invariants hold of the table over every run (`run_wellFormed_coherent`): every entry is a
package stored under its own id, and every entry is what the full node holds under that id. The
second needs the indexer to write only what the full node holds, which is what walking the
checkpoints gives, packages being immutable. On a coherent table, `get` refines the full node
(`get_refines_fallbackClient`): what it returns the full node holds, and when RocksDB reports no
failure it returns whatever the full node holds. A package, once fetched, is served from the table
(`get_caches_package`).
-/

namespace SuiLudka

/-- Every entry of the table is a package stored under its own id. -/
def LocalDBPackageStore.WellFormed (store : LocalDBPackageStore) : Prop :=
  ∀ id o, store.packageStoreTables.packages id = some o → o.id = id ∧ o.isPackage = true

/-- Every entry of the table is what the full node holds under its id. -/
def LocalDBPackageStore.Coherent (fallbackClient : FallbackClient)
    (store : LocalDBPackageStore) : Prop :=
  ∀ id o, store.packageStoreTables.packages id = some o → fallbackClient id = some o

/-- The full node answers with the object of the id it was asked for. -/
def FallbackClient.Faithful (fallbackClient : FallbackClient) : Prop :=
  ∀ id o, fallbackClient id = some o → o.id = id

/-- A request that writes only what the full node holds. -/
def StoreRequest.AgreesWith (fallbackClient : FallbackClient) : StoreRequest → Prop
  | .update object => fallbackClient object.id = some object
  | .get _ => True

section Steps

variable {fallbackClient : FallbackClient} {store : LocalDBPackageStore} {faults : StoreFaults}

/-- What `update` can do to the table: write the object under its id, if it is a package. -/
theorem update_packages {object o : Object} {id : ObjectID}
    (h : (store.update faults object).2.packageStoreTables.packages id = some o) :
    store.packageStoreTables.packages id = some o ∨
      (o = object ∧ id = object.id ∧ object.isPackage = true) := by
  unfold LocalDBPackageStore.update at h
  rcases hdata : object.data with contents | modules <;> simp only [hdata] at h
  · exact .inl h
  · unfold PackageStoreTables.update at h
    rcases hw : faults.writeFault object.id with _ | e <;> simp only [hw] at h
    · by_cases hid : id = object.id
      · simp only [hid, if_true, Option.some.injEq] at h
        exact .inr ⟨h.symm, hid, by simp [Object.isPackage, hdata]⟩
      · simp only [hid, if_false] at h
        exact .inl h
    · exact .inl h

/-- What `get` can do to the store: nothing, or the `update` of the full node's answer. -/
theorem get_cases (id : AccountAddress) :
    (store.get faults fallbackClient id).2 = store ∨
      ∃ o, fallbackClient id = some o ∧
        (store.get faults fallbackClient id).2 = (store.update faults o).2 := by
  unfold LocalDBPackageStore.get
  rcases store.packageStoreTables.get faults id with _ | _ | _
  · exact .inl rfl
  · rcases hf : fallbackClient id with _ | o
    · exact .inl rfl
    · exact .inr ⟨o, rfl, rfl⟩
  · exact .inl rfl

/-- A package whose write succeeded is in the table under its id. -/
theorem update_packages_self {object : Object} (hpkg : object.isPackage = true)
    (hok : (store.update faults object).1 = .ok ()) :
    (store.update faults object).2.packageStoreTables.packages object.id = some object := by
  unfold LocalDBPackageStore.update at hok ⊢
  rcases hdata : object.data with contents | modules
  · simp [Object.isPackage, hdata] at hpkg
  · simp only [hdata] at hok ⊢
    unfold PackageStoreTables.update at hok ⊢
    rcases hw : faults.writeFault object.id with _ | e <;> simp only [hw] at hok ⊢
    · simp
    · cases hok

/-- Without a write failure, `update` succeeds. -/
theorem update_ok {object : Object} (hw : faults.writeFault object.id = none) :
    (store.update faults object).1 = .ok () := by
  unfold LocalDBPackageStore.update PackageStoreTables.update
  split
  · rfl
  · simp only [hw]

/-- Where a successful `get` took its answer from: the table, or the full node, whose answer it
then wrote back. -/
theorem get_eq_ok {id : AccountAddress} {o : Object} {store' : LocalDBPackageStore}
    (h : store.get faults fallbackClient id = (.ok o, store')) :
    (store.packageStoreTables.packages id = some o ∧ store' = store) ∨
      (fallbackClient id = some o ∧ store.update faults o = (.ok (), store')) := by
  unfold LocalDBPackageStore.get at h
  rcases hg : store.packageStoreTables.get faults id with _ | _ | o' <;> simp only [hg] at h
  · cases h
  · rcases hf : fallbackClient id with _ | o'' <;> simp only [hf] at h
    · cases h
    · rcases hu : store.update faults o'' with ⟨_ | _, _⟩ <;>
        simp only [hu, Except.map, Prod.mk.injEq, reduceCtorEq, false_and, Except.ok.injEq] at h
      obtain ⟨rfl, rfl⟩ := h
      exact .inr ⟨rfl, hu⟩
  · simp only [Prod.mk.injEq, Except.ok.injEq] at h
    obtain ⟨rfl, rfl⟩ := h
    exact .inl ⟨(PackageStoreTables.get_eq_ok.1 hg).2, rfl⟩

/-- A hit in the table is answered from the table: the full node is not asked, and the store does
not change. -/
theorem get_of_packages {id : AccountAddress} {o : Object} (hread : faults.readFault id = none)
    (hhit : store.packageStoreTables.packages id = some o) :
    store.get faults fallbackClient id = (.ok o, store) := by
  simp [LocalDBPackageStore.get, PackageStoreTables.get, hread, hhit]

/-- A miss is answered by the full node, whose answer is written back. -/
theorem get_of_miss {id : AccountAddress} {o : Object} (hread : faults.readFault id = none)
    (hmiss : store.packageStoreTables.packages id = none) (hf : fallbackClient id = some o) :
    store.get faults fallbackClient id =
      ((store.update faults o).1.map fun _ => o, (store.update faults o).2) := by
  simp [LocalDBPackageStore.get, PackageStoreTables.get, hread, hmiss, hf]

theorem update_wellFormed (object : Object) (hwf : store.WellFormed) :
    (store.update faults object).2.WellFormed := by
  intro id o h
  rcases update_packages h with h | ⟨rfl, rfl, hpkg⟩
  · exact hwf id o h
  · exact ⟨rfl, hpkg⟩

theorem update_coherent {object : Object} (hco : store.Coherent fallbackClient)
    (hagree : fallbackClient object.id = some object) :
    (store.update faults object).2.Coherent fallbackClient := by
  intro id o h
  rcases update_packages h with h | ⟨rfl, rfl, -⟩
  · exact hco id o h
  · exact hagree

theorem get_wellFormed (id : AccountAddress) (hwf : store.WellFormed) :
    (store.get faults fallbackClient id).2.WellFormed := by
  rcases @get_cases fallbackClient store faults id with h | ⟨o, -, h⟩ <;>
    rw [h]
  · exact hwf
  · exact update_wellFormed o hwf

theorem get_coherent (id : AccountAddress) (hfaithful : fallbackClient.Faithful)
    (hco : store.Coherent fallbackClient) :
    (store.get faults fallbackClient id).2.Coherent fallbackClient := by
  rcases @get_cases fallbackClient store faults id with h | ⟨o, ho, h⟩ <;>
    rw [h]
  · exact hco
  · exact update_coherent hco (by rw [hfaithful id o ho]; exact ho)

end Steps

/-- **The table's invariants over every run.** From a table whose entries are packages under their
own ids and agree with the full node, any run of lookups and of writes of what the full node holds
keeps both, whatever RocksDB reports. -/
theorem run_wellFormed_coherent (fallbackClient : FallbackClient)
    (requests : List (StoreFaults × StoreRequest)) (store : LocalDBPackageStore)
    (hfaithful : fallbackClient.Faithful)
    (hagree : ∀ r ∈ requests, r.2.AgreesWith fallbackClient)
    (hwf : store.WellFormed) (hco : store.Coherent fallbackClient) :
    (store.run fallbackClient requests).WellFormed ∧
      (store.run fallbackClient requests).Coherent fallbackClient := by
  induction requests generalizing store with
  | nil => exact ⟨hwf, hco⟩
  | cons r rest ih =>
    obtain ⟨faults, request⟩ := r
    have hstep : (store.step fallbackClient faults request).WellFormed ∧
        (store.step fallbackClient faults request).Coherent fallbackClient := by
      cases request with
      | update object =>
        exact ⟨update_wellFormed object hwf,
          update_coherent hco (hagree _ (List.mem_cons_self _ _))⟩
      | get id => exact ⟨get_wellFormed id hwf, get_coherent id hfaithful hco⟩
    exact ih _ (fun r hr => hagree r (List.mem_cons_of_mem _ hr)) hstep.1 hstep.2

def packageAt (id : ObjectID) : Object := ⟨id, ⟨1⟩, ⟨[]⟩, .immutable, .package []⟩

/-- A full node that holds, under every id, a package with that id. -/
def packageEverywhere : FallbackClient := fun id => some (packageAt id)

def emptyPackageStore : LocalDBPackageStore := ⟨⟨fun _ => none⟩⟩

theorem packageEverywhere_faithful : packageEverywhere.Faithful := by
  intro id o h
  cases h
  rfl

theorem emptyPackageStore_wellFormed : emptyPackageStore.WellFormed := fun _ _ h => by cases h

theorem emptyPackageStore_coherent (fallbackClient : FallbackClient) :
    emptyPackageStore.Coherent fallbackClient := fun _ _ h => by cases h

theorem run_wellFormed_coherent_from_empty :
    packageEverywhere.Faithful ∧
      (∀ r ∈ [(StoreFaults.clean, StoreRequest.get zeroObjectID)],
        r.2.AgreesWith packageEverywhere) ∧
      emptyPackageStore.WellFormed ∧ emptyPackageStore.Coherent packageEverywhere ∧
      ((emptyPackageStore.run packageEverywhere
          [(StoreFaults.clean, StoreRequest.get zeroObjectID)]).WellFormed ∧
        (emptyPackageStore.run packageEverywhere
          [(StoreFaults.clean, StoreRequest.get zeroObjectID)]).Coherent packageEverywhere) :=
  have hagree : ∀ r ∈ [(StoreFaults.clean, StoreRequest.get zeroObjectID)],
      r.2.AgreesWith packageEverywhere := by
    simp [StoreRequest.AgreesWith]
  ⟨packageEverywhere_faithful, hagree, emptyPackageStore_wellFormed,
    emptyPackageStore_coherent _,
    run_wellFormed_coherent packageEverywhere _ emptyPackageStore packageEverywhere_faithful
      hagree emptyPackageStore_wellFormed (emptyPackageStore_coherent _)⟩

section Refinement

variable {fallbackClient : FallbackClient} {store : LocalDBPackageStore}

/-- **`get` refines the full node.** On a coherent table, what `get` returns the full node holds
under that id; and when RocksDB reports no failure, `get` returns whatever the full node holds. -/
theorem get_refines_fallbackClient (hco : store.Coherent fallbackClient) (id : AccountAddress) :
    (∀ faults o, (store.get faults fallbackClient id).1 = .ok o → fallbackClient id = some o) ∧
      ∀ o, fallbackClient id = some o → (store.get .clean fallbackClient id).1 = .ok o := by
  refine ⟨fun faults o h => ?_, fun o ho => ?_⟩
  · rcases get_eq_ok (Prod.ext h rfl) with ⟨hhit, -⟩ | ⟨hf, -⟩
    · exact hco id o hhit
    · exact hf
  · rcases hhit : store.packageStoreTables.packages id with _ | o'
    · rw [get_of_miss (StoreFaults.clean_readFault _) hhit ho,
        update_ok (StoreFaults.clean_writeFault _)]
      rfl
    · have hsame : some o' = some o := (hco id o' hhit).symm.trans ho
      rw [get_of_packages (StoreFaults.clean_readFault _) hhit, Option.some.inj hsame]

/-- A table that holds the package of the all-zero id. -/
def zeroPackageStore : LocalDBPackageStore :=
  ⟨⟨fun id => if id = zeroObjectID then some (packageAt zeroObjectID) else none⟩⟩

theorem zeroPackageStore_coherent : zeroPackageStore.Coherent packageEverywhere := by
  intro id o h
  simp only [zeroPackageStore] at h
  split at h
  · cases h
    subst id
    rfl
  · cases h

theorem get_refines_fallbackClient_on_cached_package :
    zeroPackageStore.Coherent packageEverywhere ∧
      ((∀ faults o, (zeroPackageStore.get faults packageEverywhere zeroObjectID).1 = .ok o →
          packageEverywhere zeroObjectID = some o) ∧
        ∀ o, packageEverywhere zeroObjectID = some o →
          (zeroPackageStore.get .clean packageEverywhere zeroObjectID).1 = .ok o) :=
  ⟨zeroPackageStore_coherent,
    get_refines_fallbackClient zeroPackageStore_coherent zeroObjectID⟩

/-- **A fetched package is cached.** After `get` returned a package, the table holds it under the
id asked for, so every later lookup of that id is answered from the table. -/
theorem get_caches_package (hfaithful : fallbackClient.Faithful) {faults : StoreFaults}
    {id : AccountAddress} {o : Object} {store' : LocalDBPackageStore}
    (h : store.get faults fallbackClient id = (.ok o, store')) (hpkg : o.isPackage = true) :
    store'.packageStoreTables.packages id = some o := by
  rcases get_eq_ok h with ⟨hhit, rfl⟩ | ⟨hf, hu⟩
  · exact hhit
  · have hself := @update_packages_self store faults o hpkg (by rw [hu])
    rwa [hu, hfaithful id o hf] at hself

theorem get_caches_package_from_empty :
    packageEverywhere.Faithful ∧
      emptyPackageStore.get .clean packageEverywhere zeroObjectID =
        (.ok (packageAt zeroObjectID),
          (emptyPackageStore.get .clean packageEverywhere zeroObjectID).2) ∧
      (packageAt zeroObjectID).isPackage = true ∧
      (emptyPackageStore.get .clean packageEverywhere zeroObjectID).2.packageStoreTables.packages
        zeroObjectID = some (packageAt zeroObjectID) :=
  ⟨packageEverywhere_faithful, rfl, rfl,
    @get_caches_package packageEverywhere emptyPackageStore packageEverywhere_faithful .clean
      zeroObjectID (packageAt zeroObjectID) _ rfl rfl⟩

end Refinement

end SuiLudka
