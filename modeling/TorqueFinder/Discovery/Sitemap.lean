import Mathlib.Data.List.DropRight
import TorqueFinder.Discovery.TypeMemory
import TorqueFinder.Lib.FirstOccurrence
import TorqueFinder.Lib.Scanner

/-! Sitemaps, and the crawl of all the model pages they list. -/

namespace TorqueFinder

open PyText ExceptFlow

/-- The text behind a literal it starts with in any case, where the literal is in lower case. -/
def afterFolded : List Char → List Char → Option (List Char)
  | [], text => some text
  | _ :: _, [] => none
  | expected :: literal, char :: rest =>
    -- The case of a tag does not matter.
    if lowerChar char = [expected] then afterFolded literal rest else none

/-- The tag that opens an address. -/
def openTag : List Char := "<loc>".toList

/-- The tag that closes it. -/
def closeTag : List Char := "</loc>".toList

/-- A character that an address may have. -/
def isLocChar (char : Char) : Bool := char ≠ '<' && !isSpace char

/-- The address element at the front of a text, and how much text it takes. -/
def locAt (text : List Char) : Option (String × Nat) := do
  let rest ← afterFolded openTag text
  -- No class of the pattern has a character of its neighbours, so nothing is ever given back.
  let (loc, rest) ← takeRun isLocChar (rest.dropWhile isSpace)
  let rest ← afterFolded closeTag (rest.dropWhile isSpace)
  return (String.ofList loc, text.length - rest.length)

/-- The addresses of a document, as `_LOC_RE.finditer` finds them. -/
def locs (xml : String) : List String := Scanner.findAll locAt xml.toList

/-- The child sitemaps of an index. -/
def parseSitemapIndex (xml : String) : List String := locs xml

/-- The model pages of a sitemap. -/
def modelPageUrls (xml : String) : List String :=
  (locs xml).filter fun url => OccursIn "/service/models/" url

/-- `url.rsplit("/", 1)[-1]`. -/
def lastSegment (url : String) : String := String.ofList (url.toList.rtakeWhile (· ≠ '/'))

/-- The sitemap of the English pages, as its file name tells. -/
def isEnglishSitemap (url : String) : Bool :=
  "sitemap.en.".toList.isPrefixOf (lastSegment url).toList

/-- The child sitemaps that are crawled: the English ones, or all when there is none. -/
def crawledSitemaps (children : List String) : List String :=
  -- Without an English sitemap, all of them are crawled.
  let english := children.filter isEnglishSitemap
  if english = [] then children else english

/-- The model of a model page. -/
def modelIdOf (url : String) : String := lastSegment (rstripChar '/' url)

/-- Note a model unless it was seen before. -/
def noteModel (modelIds : List String) (modelId : String) : List String :=
  if modelId ∈ modelIds then modelIds else modelIds ++ [modelId]

namespace DiscoveryCrawler

/-- Collect the models of some sitemaps, one sitemap after the other. -/
def collectModels (crawl : Crawl) : List String → List String → Except CrawlFailure (List String)
  | modelIds, [] => .ok modelIds
  | modelIds, sitemap :: rest => do
    -- A sitemap that cannot be fetched ends the crawl.
    let urlset ← get crawl sitemap
    collectModels crawl (((modelPageUrls urlset).map modelIdOf).foldl noteModel modelIds) rest

/-- Crawl every model page that the sitemaps of an index list. -/
def discoverSitemap (crawler : DiscoveryCrawler) (crawl : Crawl) (registry : Registry)
    (sitemapIndexUrl : String) : Except CrawlFailure (Registry × CrawlSummary) := do
  -- From here on the crawl is that of a seed.
  let indexXml ← get crawl sitemapIndexUrl
  let modelIds ← collectModels crawl [] (crawledSitemaps (parseSitemapIndex indexXml))
  crawler.discoverSeed { crawl with modelIds } registry

end DiscoveryCrawler

section Elements

/-- A text that is a literal in any case. -/
def Spells (text literal : List Char) : Prop :=
  List.Forall₂ (fun char expected => lowerChar char = [expected]) text literal

/-- A document with some addresses, each in an element of its own, and no other such element. -/
inductive IsSitemap : List Char → List String → Prop
  | done {gap : List Char}
    (plain : ∀ tail, tail <:+ gap → afterFolded openTag tail = none) : IsSitemap gap []
  | entry {gap opening before loc behind closing rest : List Char} {urls : List String}
    (plain : ∀ tail, tail <:+ gap → afterFolded openTag tail = none)
    (opens : Spells opening openTag) (blank : ∀ char ∈ before, isSpace char = true)
    (some : loc ≠ []) (visible : ∀ char ∈ loc, isLocChar char = true)
    (alsoBlank : ∀ char ∈ behind, isSpace char = true) (closes : Spells closing closeTag)
    (others : IsSitemap rest urls) :
    IsSitemap (gap ++ (opening ++ before ++ loc ++ behind ++ closing) ++ rest)
      (String.ofList loc :: urls)

variable {text rest literal tag gap tail run : List Char} {char : Char} {xml : List Char}
  {urls : List String}

/-- A literal is read off a text that spells it. -/
theorem afterFolded_of_spells (spells : Spells tag literal) (rest : List Char) :
    afterFolded literal (tag ++ rest) = some rest := by
  -- Each letter of the tag folds to the one that is expected.
  induction spells with
  | nil => rfl
  | cons same _ ih =>
    rw [List.cons_append, afterFolded, if_pos same]
    exact ih

/-- Only a bracket spells one. -/
theorem eq_bracket_of_lowerChar (same : lowerChar char = ['<']) : char = '<' := by
  unfold lowerChar at same
  split at same
  · -- The code of a small letter is not that of a bracket.
    rename_i capital
    have low : 65 ≤ char.toNat := capital.1
    have high : char.toNat ≤ 90 := capital.2
    have valid : (char.toNat + 32).isValidChar := .inl (by omega)
    have code : (Char.ofNat (char.toNat + 32)).toNat = char.toNat + 32 := by
      rw [Char.ofNat, dif_pos valid]
      rfl
    rw [(List.cons.inj same).1] at code
    have bracket : '<'.toNat = 60 := rfl
    omega
  · split at same
    · cases same
    · split at same
      · cases same
      · exact (List.cons.inj same).1

/-- What spells a tag begins with a bracket. -/
theorem bracket_of_spells (spells : Spells tag ('<' :: literal)) :
    ∃ letters, tag = '<' :: letters := by
  -- No other character folds to the bracket.
  obtain ⟨char, letters, same, -, rfl⟩ := List.forall₂_cons_right_iff.mp spells
  exact ⟨letters, by rw [eq_bracket_of_lowerChar same]⟩

/-- A literal without a bracket does not reach behind one. -/
theorem afterFolded_append_bracket (foreign : '<' ∉ literal)
    (short : afterFolded literal text = none) (rest : List Char) :
    afterFolded literal (text ++ '<' :: rest) = none := by
  -- A text that stops short of the literal is stopped by the bracket too.
  induction literal generalizing text with
  | nil => cases short
  | cons expected others ih =>
    rw [List.mem_cons, not_or] at foreign
    have bracket : lowerChar '<' = ['<'] := by decide
    cases text with
    | nil =>
      rw [List.nil_append, afterFolded, bracket, if_neg]
      exact fun same => foreign.1 (List.cons.inj same).1
    | cons char more =>
      rw [List.cons_append, afterFolded]
      rw [afterFolded] at short
      split
      · rename_i same
        rw [if_pos same] at short
        exact ih foreign.2 short
      · rfl

/-- A tag that does not stand in a text is not completed by a bracket behind it. -/
theorem afterFolded_openTag_append (some : tail ≠ []) (plain : afterFolded openTag tail = none)
    (rest : List Char) : afterFolded openTag (tail ++ '<' :: rest) = none := by
  -- The tag has no second bracket, so it does not go on behind one.
  cases tail with
  | nil => exact absurd rfl some
  | cons char more =>
    have letters : openTag = '<' :: "loc>".toList := rfl
    rw [letters, afterFolded] at plain
    rw [letters, List.cons_append, afterFolded]
    split
    · rename_i same
      rw [if_pos same] at plain
      exact afterFolded_append_bracket (by decide) plain rest
    · rfl

/-- A run ends where the text goes on with what is not accepted. -/
theorem takeWhile_of_run {accept : Char → Bool} (accepted : ∀ char ∈ run, accept char = true)
    (stops : ∀ char ∈ rest.head?, accept char = false) :
    (run ++ rest).takeWhile accept = run ∧ (run ++ rest).dropWhile accept = rest := by
  -- The run is accepted to its end, where the rest stops it.
  rw [List.takeWhile_append_of_pos accepted, List.dropWhile_append_of_pos accepted]
  cases rest with
  | nil => exact ⟨List.append_nil run, rfl⟩
  | cons char more =>
    have refused : accept char = false := stops char rfl
    rw [List.takeWhile_cons, List.dropWhile_cons, refused]
    exact ⟨List.append_nil run, rfl⟩

/-- White space is no part of an address. -/
theorem isLocChar_of_isSpace (space : isSpace char = true) : isLocChar char = false := by
  rw [isLocChar, space, Bool.not_true, Bool.and_false]

/-- A visible character is no white space. -/
theorem isSpace_of_isLocChar (visible : isLocChar char = true) : isSpace char = false := by
  rw [isLocChar, Bool.and_eq_true, Bool.not_eq_true'] at visible
  exact visible.2

/-- An element at the front of a text is read with its address, to its end. -/
theorem locAt_of_element {opening before loc behind closing : List Char}
    (opens : Spells opening openTag) (blank : ∀ char ∈ before, isSpace char = true)
    (some : loc ≠ []) (visible : ∀ char ∈ loc, isLocChar char = true)
    (alsoBlank : ∀ char ∈ behind, isSpace char = true) (closes : Spells closing closeTag)
    (rest : List Char) :
    locAt (opening ++ before ++ loc ++ behind ++ closing ++ rest) =
      Option.some (String.ofList loc, (opening ++ before ++ loc ++ behind ++ closing).length) := by
  obtain ⟨letters, ends⟩ := bracket_of_spells closes
  obtain ⟨first, others, rfl⟩ := List.exists_cons_of_ne_nil some
  have shown := visible first List.mem_cons_self
  -- Each run stops where the next part begins.
  have front := takeWhile_of_run blank
    (show ∀ char ∈ (first :: others ++ behind ++ closing ++ rest).head?, isSpace char = false by
      intro char head
      obtain rfl := Option.some.inj head
      exact isSpace_of_isLocChar shown)
  have middle := takeWhile_of_run visible
    (show ∀ char ∈ (behind ++ closing ++ rest).head?, isLocChar char = false by
      intro char head
      cases behind with
      | nil =>
        rw [ends] at head
        obtain rfl := Option.some.inj head
        rfl
      | cons space more =>
        obtain rfl := Option.some.inj head
        exact isLocChar_of_isSpace (alsoBlank _ List.mem_cons_self))
  have back := takeWhile_of_run alsoBlank
    (show ∀ char ∈ (closing ++ rest).head?, isSpace char = false by
      intro char head
      rw [ends] at head
      obtain rfl := Option.some.inj head
      rfl)
  have opened := afterFolded_of_spells opens
    (before ++ (first :: others ++ behind ++ closing ++ rest))
  have closed := afterFolded_of_spells closes rest
  -- The run is not empty, so it is taken.
  have taken : takeRun isLocChar (first :: others ++ behind ++ closing ++ rest) =
      Option.some (first :: others, behind ++ closing ++ rest) := by
    have whole : first :: others ++ behind ++ closing ++ rest =
        (first :: others) ++ (behind ++ closing ++ rest) := by simp
    rw [whole, takeRun, middle.1, List.drop_left]
    rfl
  -- The parts are bracketed as they are read.
  have text : opening ++ before ++ (first :: others) ++ behind ++ closing ++ rest =
      opening ++ (before ++ (first :: others ++ behind ++ closing ++ rest)) := by simp
  have behindLoc : behind ++ closing ++ rest = behind ++ (closing ++ rest) := by simp
  simp only [locAt, text, opened, Option.bind_eq_bind, Option.bind_some, front.2, taken, behindLoc,
    back.2, closed, Option.pure_def, Option.some.injEq, Prod.mk.injEq, true_and]
  simp only [List.length_append]
  omega

/-- The addresses that are found in a sitemap are those it lists. -/
theorem findAll_of_isSitemap (sitemap : IsSitemap xml urls) : Scanner.findAll locAt xml = urls := by
  have unread : ∀ text, afterFolded openTag text = none → locAt text = none := by
    intro text plain
    rw [locAt, plain]
    rfl
  -- The elements are read one after the other, and what is between them is passed over.
  induction sitemap with
  | done plain => exact Scanner.findAll_eq_nil fun tail suffix _ => unread _ (plain tail suffix)
  | entry plain opens blank some visible alsoBlank closes _ ih =>
    rw [List.append_assoc]
    obtain ⟨letters, starts⟩ := bracket_of_spells opens
    rw [Scanner.findAll_of_gap, Scanner.findAll_of_match
      (locAt_of_element opens blank some visible alsoBlank closes _), ih]
    · rw [starts]
      simp
    · intro tail suffix filled
      rw [starts]
      simp only [List.cons_append]
      exact unread _ (afterFolded_openTag_append filled (plain tail suffix) _)

end Elements

section Models

variable {xml site modelId : String} {crawler : DiscoveryCrawler} {crawl : Crawl}
  {registry : Registry} {urls sitemaps modelIds : List String} {listed : String → List String}

/-- The address of a model page, which may end in slashes. -/
def modelPageUrl (site modelId : String) (slashes : Nat) : String :=
  site ++ "/service/models/" ++ modelId ++ String.ofList (List.replicate slashes '/')

/-- The models of some addresses, of which only those of model pages count. -/
def modelsOf (urls : List String) : List String :=
  (urls.filter fun url => OccursIn "/service/models/" url).map modelIdOf

/-- The page of a model has the address of one, and its last segment is the model. -/
theorem modelIdOf_modelPageUrl (site : String) (some : modelId ≠ "")
    (plain : '/' ∉ modelId.toList) (slashes : Nat) :
    OccursIn "/service/models/" (modelPageUrl site modelId slashes) ∧
      modelIdOf (modelPageUrl site modelId slashes) = modelId := by
  have letters : ∀ char ∈ modelId.toList.reverse, decide (char ≠ '/') = true := by
    intro char member
    exact decide_eq_true (ne_of_mem_of_not_mem (List.mem_reverse.mp member) plain)
  -- The parts of the address, from left to right.
  have address : (modelPageUrl site modelId slashes).toList =
      site.toList ++ "/service/models".toList ++ '/' :: modelId.toList ++
        List.replicate slashes '/' := by
    simp [modelPageUrl, String.toList_append]
  -- Read backwards, the model comes first.
  have backwards : (site.toList ++ "/service/models".toList ++ '/' :: modelId.toList).reverse =
      modelId.toList.reverse ++ '/' :: (site.toList ++ "/service/models".toList).reverse := by
    simp
  -- The slashes at the end are dropped, and the segment in front of them is the model.
  have ends : ∀ char ∈ (modelId.toList.reverse ++
      '/' :: (site.toList ++ "/service/models".toList).reverse).head?, (char == '/') = false := by
    intro char head
    cases turned : modelId.toList.reverse with
    | nil => exact absurd (String.toList_eq_nil_iff.mp (List.reverse_eq_nil_iff.mp turned)) some
    | cons last others =>
      rw [turned] at head letters
      obtain rfl := Option.some.inj head
      simpa using letters last List.mem_cons_self
  have slashed : ∀ char ∈ List.replicate slashes '/', (char == '/') = true := by
    intro char member
    rw [List.eq_of_mem_replicate member]
    rfl
  have kept := (takeWhile_of_run slashed ends).2
  have segment := (takeWhile_of_run letters
    (show ∀ char ∈ ('/' :: (site.toList ++ "/service/models".toList).reverse).head?,
        decide (char ≠ '/') = false by
      intro char head
      obtain rfl := Option.some.inj head
      rfl)).1
  refine ⟨?_, ?_⟩
  · rw [OccursIn, modelPageUrl, String.toList_append, String.toList_append, String.toList_append,
      List.append_assoc, List.append_assoc]
    exact ⟨site.toList, modelId.toList ++ (String.ofList (List.replicate slashes '/')).toList,
      by simp⟩
  · rw [modelIdOf, rstripChar, address, List.reverse_append, List.reverse_replicate, backwards,
      kept, lastSegment, String.toList_ofList, List.rtakeWhile, List.reverse_reverse, segment,
      List.reverse_reverse, String.ofList_toList]

/-- The model pages of a sitemap are those of the models it lists. -/
theorem modelPageUrls_of_isSitemap (sitemap : IsSitemap xml.toList urls) :
    (modelPageUrls xml).map modelIdOf = modelsOf urls := by
  rw [modelPageUrls, locs, findAll_of_isSitemap sitemap, modelsOf]

/-- The models of more addresses come behind those of the first ones. -/
theorem modelsOf_append (first more : List String) :
    modelsOf (first ++ more) = modelsOf first ++ modelsOf more := by
  rw [modelsOf, List.filter_append, List.map_append, modelsOf, modelsOf]

/-- Noting models one after the other keeps the first mention of each. -/
theorem foldl_noteModel (noted more : List String) :
    more.foldl noteModel noted.eraseDups = (noted ++ more).eraseDups := by
  -- A model is noted unless it was, as repetitions are dropped.
  induction more generalizing noted with
  | nil => rw [List.foldl_nil, List.append_nil]
  | cons modelId rest ih =>
    have step : noteModel noted.eraseDups modelId = (noted ++ [modelId]).eraseDups := by
      rw [FirstOccurrence.eraseDups_concat, noteModel]
      by_cases known : modelId ∈ noted
      · rw [if_pos (List.mem_eraseDups.mpr known), if_pos known, List.append_nil]
      · rw [if_neg fun old => known (List.mem_eraseDups.mp old), if_neg known]
    rw [List.foldl_cons, step, ih, List.append_assoc, List.singleton_append]

/-- The models of some sitemaps are collected in the order they are first listed. -/
theorem collectModels_eq
    (readable : ∀ sitemap ∈ sitemaps, ∃ urlset, crawl.fetch sitemap = some urlset ∧
      (modelPageUrls urlset).map modelIdOf = modelsOf (listed sitemap))
    (noted : List String) :
    DiscoveryCrawler.collectModels crawl noted.eraseDups sitemaps =
      .ok (noted ++ modelsOf (sitemaps.flatMap listed)).eraseDups := by
  -- What was noted before grows by the models of the first sitemap.
  induction sitemaps generalizing noted with
  | nil =>
    rw [List.flatMap_nil]
    show Except.ok noted.eraseDups = .ok (noted ++ []).eraseDups
    rw [List.append_nil]
  | cons sitemap rest ih =>
    obtain ⟨⟨urlset, fetched, models⟩, others⟩ := List.forall_mem_cons.mp readable
    rw [DiscoveryCrawler.collectModels, DiscoveryCrawler.get, fetched, ok_bind, models,
      foldl_noteModel, ih others, List.flatMap_cons, modelsOf_append, List.append_assoc]

/-- A full crawl is the crawl of the models that the sitemaps list, each once. -/
theorem discoverSitemap_eq {indexUrl index : String} {children : List String}
    (indexed : crawl.fetch indexUrl = some index) (sitemap : IsSitemap index.toList children)
    (readable : ∀ child ∈ crawledSitemaps children, ∃ urlset, crawl.fetch child = some urlset ∧
      IsSitemap urlset.toList (listed child)) :
    crawler.discoverSitemap crawl registry indexUrl =
      crawler.discoverSeed
        { crawl with
          modelIds := (modelsOf ((crawledSitemaps children).flatMap listed)).eraseDups }
        registry ∧
    ∀ site modelId slashes, modelId ≠ "" → '/' ∉ modelId.toList →
      modelsOf [modelPageUrl site modelId slashes] = [modelId] := by
  -- The index lists the sitemaps, and these the models, each noted once.
  have found : parseSitemapIndex index = children := findAll_of_isSitemap sitemap
  have collected := collectModels_eq (fun child member => by
    obtain ⟨urlset, fetched, entries⟩ := readable child member
    exact ⟨urlset, fetched, modelPageUrls_of_isSitemap entries⟩) []
  constructor
  · rw [DiscoveryCrawler.discoverSitemap, DiscoveryCrawler.get, indexed, ok_bind, found]
    rw [List.eraseDups_nil, List.nil_append] at collected
    rw [collected, ok_bind]
  · intro site modelId slashes some plain
    obtain ⟨page, same⟩ := modelIdOf_modelPageUrl site some plain slashes
    rw [modelsOf, List.filter_cons_of_pos (by simpa using page), List.filter_nil, List.map_cons,
      same, List.map_nil]

/-- A document with an address behind each of some texts. -/
def renderLocs : List (String × String) → String → String
  | [], last => last
  | (gap, url) :: rest, last => gap ++ ("<loc>" ++ url ++ "</loc>") ++ renderLocs rest last

/-- No tag of an address stands in a text. -/
def hasNoTag (gap : String) : Bool :=
  gap.toList.tails.all fun tail => (afterFolded openTag tail).isNone

/-- A rendered document lists its addresses. -/
theorem isSitemap_renderLocs {last : String} (rows : List (String × String))
    (plain : rows.all (fun row => hasNoTag row.1) = true) (ends : hasNoTag last = true)
    (visible : rows.all (fun row => row.2 ≠ "" && row.2.toList.all isLocChar) = true) :
    IsSitemap (renderLocs rows last).toList (rows.map Prod.snd) := by
  -- Each row is a gap without a tag and an element around its address.
  have untagged : ∀ gap : String, hasNoTag gap = true →
      ∀ tail, tail <:+ gap.toList → afterFolded openTag tail = none := by
    intro gap none tail suffix
    have listed := (List.mem_tails _ _).mpr suffix
    exact Option.isNone_iff_eq_none.mp (List.all_eq_true.mp none tail listed)
  induction rows with
  | nil => exact .done (untagged last ends)
  | cons row rest ih =>
    obtain ⟨gap, url⟩ := row
    rw [List.all_cons, Bool.and_eq_true] at plain visible
    obtain ⟨some, seen⟩ := (Bool.and_eq_true _ _).mp visible.1
    have filled : url.toList ≠ [] := fun empty =>
      of_decide_eq_true some (String.toList_eq_nil_iff.mp empty)
    have spelled : ∀ literal : List Char, literal.all (fun char => lowerChar char = [char]) = true →
        Spells literal literal := by
      intro literal lower
      exact List.forall₂_same.mpr fun char member =>
        of_decide_eq_true (List.all_eq_true.mp lower char member)
    have element := IsSitemap.entry (untagged gap plain.1) (spelled openTag (by decide))
      (List.forall_mem_nil _) filled (List.all_eq_true.mp seen) (List.forall_mem_nil _)
      (spelled closeTag (by decide)) (ih plain.2 visible.2)
    rw [String.ofList_toList] at element
    simpa [renderLocs, openTag, closeTag] using element

/-- The index of a site with an English and a German sitemap. -/
def forkIndexRows : List (String × String) :=
  [("<sitemap>", "https://www.sram.com/sitemap.en.xml"),
    ("</sitemap><sitemap>", "https://www.sram.com/sitemap.de.xml")]

/-- The addresses of the English sitemap, which lists one model twice and the folder of models. -/
def forkUrls : List String :=
  [modelPageUrl "https://www.sram.com/en" "fs-fork" 0, "https://www.sram.com/en/rockshox/pike",
    -- The folder of the models is an address of the sitemap as well.
    "https://www.sram.com/en/service/models/", modelPageUrl "https://www.sram.com/en" "fs-fork" 1]

/-- The pages of the site, of which the German sitemap cannot be fetched. -/
def forkSite : Crawl :=
  { forkCrawl "/UM" with
    modelIds := []
    fetch := fun url =>
      if url = "https://www.sram.com/sitemap.xml" then
        some (renderLocs forkIndexRows "</sitemap></sitemapindex>")
      else if url = "https://www.sram.com/sitemap.en.xml" then
        some (renderLocs (forkUrls.map fun url => ("<url>", url)) "</urlset>")
      -- The German sitemap cannot be fetched, and is not asked for.
      else if url = "https://www.sram.com/sitemap.de.xml" then none
      else (forkCrawl "/UM").fetch url }

/-- The crawl of the site also asks for the folder, as if it were a model. -/
theorem discoverSitemap_eq_fork :
    forkCrawler.discoverSitemap forkSite .empty "https://www.sram.com/sitemap.xml" =
      forkCrawler.discoverSeed { forkSite with modelIds := ["fs-fork", "models"] } .empty := by
  -- The index has an English sitemap, whose addresses name a model and the folder.
  have english : crawledSitemaps (forkIndexRows.map Prod.snd) =
      ["https://www.sram.com/sitemap.en.xml"] := by
    decide +kernel
  have models : (modelsOf (["https://www.sram.com/sitemap.en.xml"].flatMap
      fun _ => forkUrls)).eraseDups = ["fs-fork", "models"] := by
    decide +kernel
  have index : IsSitemap (renderLocs forkIndexRows "</sitemap></sitemapindex>").toList
      (forkIndexRows.map Prod.snd) :=
    isSitemap_renderLocs _ (by decide +kernel) (by decide +kernel) (by decide +kernel)
  have entries : IsSitemap
      (renderLocs (forkUrls.map fun url => ("<url>", url)) "</urlset>").toList forkUrls :=
    isSitemap_renderLocs _ (by decide +kernel) (by decide +kernel) (by decide +kernel)
  have crawled : forkCrawler.discoverSitemap forkSite .empty "https://www.sram.com/sitemap.xml" =
      forkCrawler.discoverSeed
        { forkSite with
          modelIds := (modelsOf ((crawledSitemaps (forkIndexRows.map Prod.snd)).flatMap
            fun _ => forkUrls)).eraseDups } .empty :=
    (discoverSitemap_eq rfl index fun child member => by
      rw [english, List.mem_singleton] at member
      exact ⟨_, by rw [member]; rfl, entries⟩).1
  rwa [english, models] at crawled

end Models

end TorqueFinder
