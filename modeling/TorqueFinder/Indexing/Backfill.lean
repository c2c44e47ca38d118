import TorqueFinder.Indexing.RepositoryLaws
import TorqueFinder.Lib.ExceptFlow

/-! The backfill, which derives the facet of every stored document again from its title. -/

namespace TorqueFinder

open ExceptFlow

/-- How many documents were given a family, a brand without a family, and nothing. -/
structure BackfillSummary where
  withFamily : Nat := 0
  brandOnly : Nat := 0
  nullBoth : Nat := 0
  deriving DecidableEq

/-- Count one more derived facet. -/
def BackfillSummary.count (summary : BackfillSummary) :
    Option String × Option String → BackfillSummary
  -- A document counts once, by its family first.
  | (some _, _) => { summary with withFamily := summary.withFamily + 1 }
  | (none, some _) => { summary with brandOnly := summary.brandOnly + 1 }
  | (none, none) => { summary with nullBoth := summary.nullBoth + 1 }

/-- How many documents were looked at. -/
def BackfillSummary.total (summary : BackfillSummary) : Nat :=
  summary.withFamily + summary.brandOnly + summary.nullBoth

namespace Store

/-- All documents in the order the database's collation puts their titles. -/
def listDocuments (collation : String → String → Bool) (store : Store) : List IndexedDocument :=
  store.documents.mergeSort fun first second => collation first.title second.title

end Store

/-- The loop of the backfill over the listed documents. -/
def backfillFrom (order : SetOrder) (apply : Bool) :
    Store → BackfillSummary → List IndexedDocument →
      Except RepositoryError (Store × BackfillSummary)
  | store, summary, [] => .ok (store, summary)
  | store, summary, document :: rest => do
    let (family, brand) := deriveFacet order document.title
    -- An audit only counts.
    let store ← (if apply then store.setProductFacet document.id family brand else .ok store)
    backfillFrom order apply store (summary.count (family, brand)) rest

/-- Derive the facet of every document, and write it when asked to. -/
def backfill (order : SetOrder) (collation : String → String → Bool) (apply : Bool)
    (store : Store) : Except RepositoryError (Store × BackfillSummary) := do
  let (written, summary) ← backfillFrom order apply store {} (store.listDocuments collation)
  -- What an audit did is rolled back.
  return (if apply then written else store, summary)

/-- The document with the facet that is derived from its title. -/
def IndexedDocument.rederived (order : SetOrder) (document : IndexedDocument) : IndexedDocument :=
  -- Only the two columns of the facet are computed again.
  { document with
    productFamily := (deriveFacet order document.title).1
    brand := (deriveFacet order document.title).2 }

/-- The facet of a document is the one derived from its title. -/
def IndexedDocument.FacetDerived (order : SetOrder) (document : IndexedDocument) : Prop :=
  (document.productFamily, document.brand) = deriveFacet order document.title

variable {order : SetOrder} {collation : String → String → Bool} {apply : Bool}
  {store next : Store} {summary final : BackfillSummary} {document : IndexedDocument}
  {listed : List IndexedDocument}

/-- A document whose facet is derived again has the derived facet. -/
theorem facetDerived_rederived (document : IndexedDocument) :
    (document.rederived order).FacetDerived order := rfl

/-- Deriving a derived facet again changes nothing. -/
theorem rederived_eq (derived : document.FacetDerived order) :
    document.rederived order = document := by
  -- A facet that is already derived from the title stays.
  unfold IndexedDocument.FacetDerived at derived
  rw [IndexedDocument.rederived, ← derived]

/-- The counts of a backfill add up to the documents it looked at. -/
theorem total_of_backfillFrom
    (done : backfillFrom order apply store summary listed = .ok (next, final)) :
    final.total = summary.total + listed.length := by
  -- Whatever was derived for a document, one of the three counts goes up.
  have counted : ∀ (summary : BackfillSummary) (facet : Option String × Option String),
      (summary.count facet).total = summary.total + 1 := by
    intro summary facet
    obtain ⟨family, brand⟩ := facet
    cases family <;> cases brand <;>
      simp only [BackfillSummary.count, BackfillSummary.total] <;> omega
  induction listed generalizing store summary with
  | nil =>
    cases done
    simp
  | cons document rest ih =>
    obtain ⟨middle, _, done⟩ := bind_eq_ok.mp done
    rw [ih done, counted, List.length_cons]
    omega

/-- Writing a facet changes the row of its document only. -/
theorem documents_setProductFacet {family brand : Option String} {documentId : Int}
    (done : store.setProductFacet documentId family brand = .ok next) :
    next.chunks = store.chunks ∧
      next.documents = store.documents.map fun row =>
        if row.id = documentId then { row with productFamily := family, brand } else row := by
  -- A document that does not exist is an error.
  unfold Store.setProductFacet at done
  split at done
  · cases done
    exact ⟨rfl, rfl⟩
  · cases done

/-- The loop rewrites the facets of the listed documents. -/
theorem documents_backfillFrom
    (titles : ∀ document ∈ listed, ∀ row ∈ store.documents, row.id = document.id →
      row.title = document.title)
    (done : backfillFrom order true store summary listed = .ok (next, final)) :
    next.chunks = store.chunks ∧
      next.documents = store.documents.map fun row =>
        if row.id ∈ listed.map IndexedDocument.id then row.rederived order else row := by
  -- One document is rewritten at a time, and a facet written twice is the same both times.
  induction listed generalizing store summary with
  | nil =>
    cases done
    simp
  | cons document rest ih =>
    obtain ⟨middle, written, done⟩ := bind_eq_ok.mp done
    obtain ⟨chunks, rows⟩ : middle.chunks = store.chunks ∧
        middle.documents = store.documents.map fun row =>
          if row.id = document.id then
            { row with
              productFamily := (deriveFacet order document.title).1
              brand := (deriveFacet order document.title).2 }
          else row := documents_setProductFacet written
    -- The write changes no title, so the rest is as it was listed.
    have middleTitles : ∀ document ∈ rest, ∀ row ∈ middle.documents, row.id = document.id →
        row.title = document.title := by
      intro other member row inside same
      rw [rows, List.mem_map] at inside
      obtain ⟨old, oldMember, rfl⟩ := inside
      have oldTitle := titles other (List.mem_cons_of_mem _ member) old oldMember
      split at same <;> split <;> exact oldTitle same
    obtain ⟨restChunks, restRows⟩ := ih middleTitles done
    refine ⟨restChunks.trans chunks, ?_⟩
    rw [restRows, rows, List.map_map]
    refine List.map_congr_left fun row member => ?_
    by_cases same : row.id = document.id
    · -- The title the facet was derived from is the one the row has.
      have title := titles document List.mem_cons_self row member same
      simp [same, IndexedDocument.rederived, ← title]
    · simp [same]

/-- A backfill that writes leaves every document with its derived facet and changes nothing else. -/
theorem documents_backfill (done : backfill order collation true store = .ok (next, summary)) :
    next.chunks = store.chunks ∧ next.documents = store.documents.map (·.rederived order) := by
  obtain ⟨⟨written, counts⟩, looped, done⟩ := bind_eq_ok.mp done
  obtain ⟨rfl, rfl⟩ := Prod.mk.injEq .. ▸ pure_eq_ok.mp done
  have listing : (store.listDocuments collation).Perm store.documents := List.mergeSort_perm _ _
  -- The listing has every document once, and rows with one id are one row.
  obtain ⟨chunks, rows⟩ := documents_backfillFrom (fun document member row inside same => by
    rw [Table.eq_of_key store.documentIds_nodup inside (listing.mem_iff.mp member) same]) looped
  refine ⟨chunks, rows.trans (List.map_congr_left fun row member => ?_)⟩
  exact if_pos ((listing.map _).mem_iff.mpr (List.mem_map_of_mem member))

/-- An audit writes nothing. -/
theorem store_of_audit (done : backfill order collation false store = .ok (next, summary)) :
    next = store := by
  -- The audit computes the facets but writes none.
  obtain ⟨⟨written, counts⟩, _, done⟩ := bind_eq_ok.mp done
  obtain ⟨rfl, rfl⟩ := Prod.mk.injEq .. ▸ pure_eq_ok.mp done
  rfl

/-- A backfill never meets a document that does not exist. -/
theorem backfill_succeeds (order : SetOrder) (collation : String → String → Bool) (apply : Bool)
    (store : Store) :
    ∃ next summary, backfill order collation apply store = .ok (next, summary) := by
  -- The ids of the documents stay the same while the loop writes.
  have loop : ∀ (listed : List IndexedDocument) (store : Store) (summary : BackfillSummary),
      (∀ document ∈ listed, document.id ∈ store.documents.map IndexedDocument.id) →
        ∃ result, backfillFrom order apply store summary listed = .ok result := by
    intro listed
    induction listed with
    | nil =>
      intro store summary _
      exact ⟨_, rfl⟩
    | cons document rest ih =>
      intro store summary present
      cases apply with
      | false => exact ih store _ fun other member => present other (List.mem_cons_of_mem _ member)
      -- The document is still there, so its facet is written.
      | true =>
        obtain ⟨middle, written⟩ : ∃ middle,
            store.setProductFacet document.id (deriveFacet order document.title).1
              (deriveFacet order document.title).2 = .ok middle :=
          ⟨_, if_pos (present document List.mem_cons_self)⟩
        have ids : middle.documents.map IndexedDocument.id =
            store.documents.map IndexedDocument.id := by
          rw [(documents_setProductFacet written).2, List.map_map]
          refine List.map_congr_left fun row _ => ?_
          simp only [Function.comp_apply]
          split <;> rfl
        obtain ⟨result, done⟩ := ih middle
          (summary.count ((deriveFacet order document.title).1,
            (deriveFacet order document.title).2))
          fun other member => ids ▸ present other (List.mem_cons_of_mem _ member)
        exact ⟨result, bind_eq_ok.mpr ⟨middle, written, done⟩⟩
  -- The listing holds the documents of the store in another order.
  have listing : (store.listDocuments collation).Perm store.documents := List.mergeSort_perm _ _
  obtain ⟨⟨written, summary⟩, looped⟩ := loop (store.listDocuments collation) store {}
    fun document member => List.mem_map_of_mem (listing.mem_iff.mp member)
  exact ⟨_, summary, bind_eq_ok.mpr ⟨_, looped, rfl⟩⟩

end TorqueFinder
