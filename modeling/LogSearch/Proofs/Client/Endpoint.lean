import LogSearch.Client.Http
import LogSearch.Proofs.Url.Parts

/-!
# Where searches are asked for

A client is given a URL, checks that it is one, and from then on takes it for a text: it cuts the slashes
off its end and writes the endpoint of a search behind it.  If the text is bare, that is, has no blanks
around it, no query and no fragment, then the endpoint is the end of the path and nothing else of the URL
changes.  But the check lets every URL of the web pass.  Behind a query or fragment the endpoint is a part
of these, and the server is asked for the path of the URL itself (`Client.search_path_stays`).

## What is here

* `IsBare` — texts that a path can be added to;
* `StaysPath`, `AsksBelow` — the endpoint in the text of a request, and in its URL;
* `rdropWhile_slash_trimmed_iff` — what is lost by cutting slashes off a text with blanks at its end;
* `Client.search_path_stays` — both, for all URLs that a client accepts.
-/

set_option autoImplicit false
namespace LogSearch

open Url (endsPath isEdge isKept front back)

/-! ## The path of a search -/

namespace SearchRequest

/-- What a search is asked for at, below the path of the server. -/
def endpoint (request : SearchRequest) : List Char :=
  '/' :: Text.Percent.encode keepsInIndex request.index.toList ++ "/_search".toList

/-- How a search is to be answered. -/
def options : List Char := "track_total_hits=false".toList

theorem toList_path (request : SearchRequest) : request.path.toList = request.endpoint ++ '?' :: options := by
  have htail : "/_search?track_total_hits=false".toList = "/_search".toList ++ '?' :: options := by decide
  rw [path, endpoint, String.toList_append, String.toList_append, String.toList_ofList, htail,
    ← List.append_assoc, String.toList_ofList]
  rfl

end SearchRequest

/-- Escaping leaves characters that need none, percent signs and digits. -/
theorem Text.Percent.mem_encode {keep : Char → Bool} {cs : List Char} {c : Char} (h : c ∈ encode keep cs) :
    keep c = true ∨ c = '%' ∨ ∃ n < 16, c = hexDigit n := by
  rw [encode, List.mem_flatMap] at h
  obtain ⟨d, -, hc⟩ := h
  split at hc
  · next hkeep =>
    rw [List.mem_singleton] at hc
    exact .inl (hc ▸ hkeep)
  · obtain ⟨b, -, hb⟩ := List.mem_flatMap.1 hc
    have hlt := b.toNat_lt
    simp only [escape, List.mem_cons, List.not_mem_nil, or_false] at hb
    rcases hb with rfl | rfl | rfl
    · exact .inr (.inl rfl)
    · exact .inr (.inr ⟨b.toNat / 16, by omega, rfl⟩)
    · exact .inr (.inr ⟨b.toNat % 16, by omega, rfl⟩)

/-- A character that stays where it is written in a path. -/
def staysInPath (c : Char) : Bool := !isEdge c && !endsPath c

theorem staysInPath_of_keepsInIndex {c : Char} (h : SearchRequest.keepsInIndex c = true) :
    staysInPath c = true := by
  have hedge : isEdge c = false := by
    by_contra hedge
    have hall : ∀ n ≤ 0x20, SearchRequest.keepsInIndex (Char.ofNat n) = false := by decide
    have hc := hall c.toNat (by simpa [isEdge] using hedge)
    rw [Char.ofNat_toNat, h] at hc
    cases hc
  have hends : endsPath c = false := by
    by_contra hends
    obtain rfl | rfl := Url.endsPath_iff.1 (by simpa using hends) <;> exact absurd h (by decide)
  rw [staysInPath, hedge, hends]
  rfl

theorem staysInPath_of_mem_endpoint {request : SearchRequest} :
    ∀ c ∈ request.endpoint, staysInPath c = true := by
  have hdigit : ∀ n < 16, staysInPath (Text.hexDigit n) = true := by decide
  have hsearch : "/_search".toList.all staysInPath = true := by decide
  intro c hc
  rw [SearchRequest.endpoint, List.cons_append, List.mem_cons, List.mem_append] at hc
  rcases hc with rfl | hc | hc
  · rfl
  · rcases Text.Percent.mem_encode hc with hkeep | rfl | ⟨n, hn, rfl⟩
    · exact staysInPath_of_keepsInIndex hkeep
    · rfl
    · exact hdigit n hn
  · exact List.all_eq_true.1 hsearch c hc

theorem isEdge_of_mem_endpoint {request : SearchRequest} : ∀ c ∈ request.endpoint, isEdge c = false := by
  intro c hc
  have hstays := staysInPath_of_mem_endpoint c hc
  simp only [staysInPath, Bool.and_eq_true, Bool.not_eq_true'] at hstays
  exact hstays.1

theorem endsPath_of_mem_endpoint {request : SearchRequest} : ∀ c ∈ request.endpoint, endsPath c = false := by
  intro c hc
  have hstays := staysInPath_of_mem_endpoint c hc
  simp only [staysInPath, Bool.and_eq_true, Bool.not_eq_true'] at hstays
  exact hstays.2

/-! ## The text that a path is added to -/

/-- A URL that a path can be added to as it is written. -/
structure IsBare (text : String) : Prop where
  trimmed : Url.trimmed text.toList = text.toList
  plain : ∀ c ∈ text.toList, endsPath c = false

/-- The URL that is meant: less what is around it, then less the slashes at its end. -/
def bareUrl (text : String) : List Char := (Url.trimmed text.toList).rdropWhile (· == '/')

theorem toList_trimSlashes (text : String) :
    (Client.trimSlashes text).toList = text.toList.rdropWhile (· == '/') := String.toList_ofList

theorem Client.eq_of_new {text : String} {client : Client} (h : Client.new text = .ok client) :
    client = ⟨trimSlashes text, none⟩ ∧ ∃ base, Url.read text = .ok (.web base) := by
  rw [Client.new] at h
  split at h
  · cases h
  · next base hread =>
    split at h
    · cases h
      exact ⟨rfl, base, hread⟩
    · cases h
  · cases h

section slashes

variable {cs : List Char}

/-- A blank in front of a text stays if slashes are cut off its end. -/
theorem dropWhile_isEdge_of_rdropWhile_slash
    (h : cs.rdropWhile (· == '/') = (Url.trimmed cs).rdropWhile (· == '/')) :
    cs.dropWhile isEdge = cs := by
  rw [List.dropWhile_eq_self_iff]
  intro hl hedge
  obtain ⟨c, rest, rfl⟩ := List.exists_cons_of_length_pos hl
  have hslash : (c == '/') = false := by
    rw [beq_eq_false_iff_ne]
    rintro rfl
    cases hedge
  have hcut : (c :: rest).rdropWhile (· == '/') = c :: rest.rdropWhile (· == '/') :=
    @Text.rdropWhile_append_cons _ c [] rest hslash
  have hprefix : c :: rest.rdropWhile (· == '/') <+: (c :: rest).dropWhile isEdge := by
    rw [← hcut, h]
    exact (List.rdropWhile_prefix _ _).trans (List.rdropWhile_prefix _ _)
  obtain ⟨more, hmore⟩ := hprefix
  have hne : (c :: rest).dropWhile isEdge ≠ [] := by
    rw [← hmore]
    exact List.cons_ne_nil _ _
  have hhead := List.head_dropWhile_not isEdge hne
  simp only [← hmore, List.cons_append, List.head_cons] at hhead
  simp [hhead] at hedge

/-- A text has no blanks around it if and only if it is the same to cut the slashes off its end before
or after these. -/
theorem rdropWhile_slash_trimmed_iff :
    cs.rdropWhile (· == '/') = (Url.trimmed cs).rdropWhile (· == '/') ↔ Url.trimmed cs = cs := by
  refine ⟨fun h ↦ ?_, fun h ↦ by rw [h]⟩
  have htrimmed : Url.trimmed cs = cs.rdropWhile isEdge := by
    rw [Url.trimmed, dropWhile_isEdge_of_rdropWhile_slash h]
  rw [htrimmed] at h ⊢
  refine List.rdropWhile_eq_self_iff.2 fun hne hedge ↦ ?_
  -- the last character is no slash, so that nothing is cut off but it
  have hslash : cs.rdropWhile (· == '/') = cs := List.rdropWhile_eq_self_iff.2 fun _ hlast ↦ by
    rw [beq_iff_eq.1 hlast] at hedge
    cases hedge
  have hprefix := List.rdropWhile_prefix (· == '/') (cs.rdropWhile isEdge)
  rw [← h, hslash] at hprefix
  have heq : cs.rdropWhile isEdge = cs :=
    (List.rdropWhile_prefix isEdge _).eq_of_length_le hprefix.length_le
  exact List.rdropWhile_eq_self_iff.1 heq hne hedge

end slashes

/-! ## The endpoint in the text of a request -/

/-- In what a search is put to, the endpoint is the end of the path, right behind the URL that is meant,
and the query is that of the search. -/
structure StaysPath (text : String) (client : Client) (request : SearchRequest) : Prop where
  path : front (client.baseUrl ++ request.path).toList = bareUrl text ++ request.endpoint
  query : back (client.baseUrl ++ request.path).toList = '?' :: SearchRequest.options

section text

variable {text : String} (request : SearchRequest)

theorem toList_requestText :
    (Client.trimSlashes text ++ request.path).toList
      = text.toList.rdropWhile (· == '/') ++ request.endpoint ++ '?' :: SearchRequest.options := by
  rw [String.toList_append, toList_trimSlashes, SearchRequest.toList_path, List.append_assoc]

theorem endsPath_of_mem_requestPath (h : ∀ c ∈ text.toList, endsPath c = false) :
    ∀ c ∈ text.toList.rdropWhile (· == '/') ++ request.endpoint, endsPath c = false :=
  List.forall_mem_append.2
    ⟨fun c hc ↦ h c ((List.rdropWhile_prefix _ _).subset hc), endsPath_of_mem_endpoint⟩

/-- No slashes are cut off in front of a query or fragment. -/
theorem rdropWhile_slash_append_cons {cs rest : List Char} {c : Char} (hc : endsPath c = true) :
    (cs ++ c :: rest).rdropWhile (· == '/') = cs ++ c :: rest.rdropWhile (· == '/') := by
  refine Text.rdropWhile_append_cons (p := (· == '/')) (beq_eq_false_iff_ne.2 ?_)
  rintro rfl
  cases hc

theorem toList_requestText_of_cut {cs rest : List Char} {c : Char} (hcut : text.toList = cs ++ c :: rest)
    (hc : endsPath c = true) :
    ∃ rest', (Client.trimSlashes text ++ request.path).toList = cs ++ c :: rest' := by
  rw [toList_requestText, hcut, rdropWhile_slash_append_cons hc]
  exact ⟨_, by simp only [List.append_assoc, List.cons_append]; rfl⟩

theorem mem_bareUrl_of_endsPath {c : Char} (h : c ∈ text.toList) (hc : endsPath c = true) :
    c ∈ bareUrl text := by
  have hedge := Url.isEdge_of_endsPath hc
  obtain ⟨cs, rest, hcut⟩ := List.append_of_mem h
  rw [bareUrl, Url.trimmed, hcut, Text.dropWhile_append_cons hedge, Text.rdropWhile_append_cons hedge,
    rdropWhile_slash_append_cons hc]
  exact List.mem_append_right _ List.mem_cons_self

/-- The endpoint stays the end of the path if and only if the URL is bare. -/
theorem staysPath_iff :
    StaysPath text ⟨Client.trimSlashes text, none⟩ request ↔ IsBare text := by
  constructor
  · rintro ⟨hpath, -⟩
    have hplain : ∀ c ∈ text.toList, endsPath c = false := by
      intro c hmem
      by_contra hc
      rw [Bool.not_eq_false] at hc
      have hfront : c ∈ front (Client.trimSlashes text ++ request.path).toList := by
        rw [hpath]
        exact List.mem_append_left _ (mem_bareUrl_of_endsPath hmem hc)
      rw [Url.endsPath_of_mem_front hfront] at hc
      cases hc
    rw [toList_requestText, Url.front_append (endsPath_of_mem_requestPath request hplain)] at hpath
    refine ⟨rdropWhile_slash_trimmed_iff.1 ?_, hplain⟩
    simpa [front, endsPath, bareUrl] using hpath
  · rintro ⟨htrimmed, hplain⟩
    have hpath := endsPath_of_mem_requestPath request hplain
    constructor
    · rw [toList_requestText, Url.front_append hpath, bareUrl, htrimmed]
      simp [front, endsPath]
    · rw [toList_requestText, Url.back_append hpath, Url.back_cons (by decide)]

end text

/-! ## The endpoint in the URL of a request -/

/-- A search is asked for at a URL below another one: its endpoint is put behind the path, and everything
but the path and the query is kept. -/
structure AsksBelow (base asked : Url) (request : SearchRequest) : Prop where
  path : ∃ (above : List Char) (k : Nat), base.path = Url.normalPath (above ++ List.replicate k '/') ∧
    asked.path = Url.normalPath (above ++ request.endpoint)
  query : asked.query = some SearchRequest.options
  rest : { asked with path := base.path, query := base.query } = base

section asked

variable {text : String} (request : SearchRequest) {base : Url}

/-- A text less the slashes at its end, and these. -/
theorem exists_slashes (cs : List Char) : ∃ k, cs = cs.rdropWhile (· == '/') ++ List.replicate k '/' := by
  have hslashes : cs.rtakeWhile (· == '/') = List.replicate (cs.rtakeWhile (· == '/')).length '/' :=
    List.eq_replicate_of_mem fun _ hc ↦ beq_iff_eq.1 (List.mem_rtakeWhile_imp (p := (· == '/')) hc)
  refine ⟨(cs.rtakeWhile (· == '/')).length, ?_⟩
  rw [← hslashes, List.rdropWhile_append_rtakeWhile]

theorem clean_of_isBare (h : IsBare text) : ∃ k,
    Url.clean text.toList = (text.toList.rdropWhile (· == '/')).filter isKept ++ List.replicate k '/' := by
  obtain ⟨k, hk⟩ := exists_slashes text.toList
  refine ⟨k, ?_⟩
  have hkept : (List.replicate k '/').filter isKept = List.replicate k '/' :=
    Url.filter_isKept fun c hc ↦ by
      rw [List.eq_of_mem_replicate hc]
      rfl
  rw [Url.clean_eq, h.trimmed]
  conv_lhs => rw [hk]
  rw [List.filter_append, hkept]

/-- Nothing is cut off or dropped from what is added to a URL without blanks around it. -/
theorem clean_requestText (h : IsBare text) :
    Url.clean (Client.trimSlashes text ++ request.path).toList
      = (text.toList.rdropWhile (· == '/')).filter isKept ++ request.endpoint ++
          '?' :: SearchRequest.options := by
  have hbase : (text.toList.rdropWhile (· == '/')).dropWhile isEdge = text.toList.rdropWhile (· == '/') :=
    Url.dropWhile_isEdge_of_prefix h.trimmed (List.rdropWhile_prefix _ _)
  have hoptions : ('?' :: SearchRequest.options).all (!isEdge ·) = true := by decide
  have hadded : ∀ c ∈ request.endpoint.tail ++ '?' :: SearchRequest.options, isEdge c = false :=
    List.forall_mem_append.2 ⟨fun c hc ↦ isEdge_of_mem_endpoint c (List.mem_of_mem_tail hc),
      fun c hc ↦ by simpa using List.all_eq_true.1 hoptions c hc⟩
  have hendpoint : request.endpoint = '/' :: request.endpoint.tail := rfl
  rw [toList_requestText, hendpoint, List.append_assoc, List.cons_append,
    Url.clean_append_cons (by decide), hbase, Url.rdropWhile_isEdge hadded, Url.filter_isKept hadded]
  simp

/-- Behind the slashes that end a bare URL a search finds what it adds. -/
theorem asksBelow (h : IsBare text) (hread : Url.read text = .ok (.web base)) :
    ∃ message, Client.request? ⟨Client.trimSlashes text, none⟩ request = some message ∧
      AsksBelow base message.url request := by
  obtain ⟨scheme, host, rest, site, hopens, hsite, rfl⟩ := Url.read_eq_ok_web_iff.1 hread
  obtain ⟨k, hclean⟩ := clean_of_isBare h
  rw [hclean] at hopens
  obtain ⟨above, habove, rfl⟩ := hopens.of_append_slashes
  have hplain := habove.plain fun c hc ↦
    h.plain c ((List.rdropWhile_prefix _ _).subset (List.mem_of_mem_filter hc))
  have hslashes : ∀ c ∈ above ++ List.replicate k '/', endsPath c = false :=
    List.forall_mem_append.2 ⟨hplain, fun c hc ↦ by
      rw [List.eq_of_mem_replicate hc]
      rfl⟩
  have hendpoint : ∀ c ∈ above ++ request.endpoint, endsPath c = false :=
    List.forall_mem_append.2 ⟨hplain, endsPath_of_mem_endpoint⟩
  -- the same host is found in what the search is put to
  have hasks : Url.Opens _ scheme host
      (above ++ '/' :: (request.endpoint.tail ++ '?' :: SearchRequest.options)) :=
    habove.append_cons rfl
  have hbehind (cs : List Char) : cs ++ '/' :: (request.endpoint.tail ++ '?' :: SearchRequest.options)
      = cs ++ request.endpoint ++ '?' :: SearchRequest.options :=
    (List.append_assoc cs request.endpoint _).symm
  rw [hbehind, hbehind, ← clean_requestText request h] at hasks
  have hasked := Url.read_eq_ok_web_iff.2 ⟨scheme, host, _, site, hasks, hsite, rfl⟩
  rw [Client.request?, hasked]
  refine ⟨_, rfl, ⟨above, k, ?_, ?_⟩, ?_, rfl⟩
  · exact congrArg Url.normalPath (Url.front_eq_self hslashes)
  · refine congrArg Url.normalPath ?_
    rw [Url.front_append hendpoint, front, List.takeWhile_cons_of_neg (by decide), List.append_nil]
  · change Url.queryOf (back _) = _
    rw [Url.back_append hendpoint, Url.back_cons (by decide)]
    decide

/-- Behind a query or fragment the path of a URL stays as it is. -/
theorem asks_at_base (h : ∃ c ∈ text.toList, endsPath c = true) (hread : Url.read text = .ok (.web base)) :
    ∃ message, Client.request? ⟨Client.trimSlashes text, none⟩ request = some message ∧
      message.url = { base with query := message.url.query } := by
  obtain ⟨c, hmem, hc⟩ := h
  obtain ⟨cs, rest, hcut⟩ := List.append_of_mem hmem
  obtain ⟨rest', hrest'⟩ := toList_requestText_of_cut request hcut hc
  have hedge := Url.isEdge_of_endsPath hc
  obtain ⟨scheme, host, behind, site, hopens, hsite, rfl⟩ := Url.read_eq_ok_web_iff.1 hread
  rw [hcut, Url.clean_append_cons hedge] at hopens
  obtain ⟨path, hpath, rfl⟩ := hopens.of_append_cons hc
  have hasks : Url.Opens _ scheme host (path ++ c :: (rest'.rdropWhile isEdge).filter isKept) :=
    hpath.append_cons (Url.endsAuthority_of_endsPath hc)
  rw [← Url.clean_append_cons hedge, ← hrest'] at hasks
  have hasked := Url.read_eq_ok_web_iff.2 ⟨scheme, host, _, site, hasks, hsite, rfl⟩
  rw [Client.request?, hasked]
  refine ⟨_, rfl, ?_⟩
  simp [Url.front_append_cons hc]

end asked

/-- **Where a search ends up**, for every URL that a client accepts and every search.  The endpoint stays
the end of the path if and only if the URL is bare, and then it is asked for below the path of the URL, at
the same server and with no other query.  If the URL has a query or fragment, the search is put behind it,
and the server is asked for the path of the URL itself. -/
theorem Client.search_path_stays {text : String} {client : Client} (h : Client.new text = .ok client)
    (request : SearchRequest) :
    (StaysPath text client request ↔ IsBare text) ∧
    ∃ base, Url.read text = .ok (.web base) ∧
      (IsBare text → ∃ message, client.request? request = some message ∧
        AsksBelow base message.url request) ∧
      ((∃ c ∈ text.toList, endsPath c = true) → ∃ message, client.request? request = some message ∧
        message.url = { base with query := message.url.query }) := by
  obtain ⟨rfl, base, hread⟩ := Client.eq_of_new h
  exact ⟨staysPath_iff request, base, hread, fun hbare ↦ asksBelow request hbare hread,
    fun hends ↦ asks_at_base request hends hread⟩

/-- A URL with slashes at its end, one with a query, one with a fragment, and one with a blank behind it. -/
theorem Client.search_path_stays_samples :
    let request : SearchRequest := ⟨"log?#ß", .present "message", "@timestamp", 10, [], none⟩
    StaysPath "http://[::1]/es//" ⟨"http://[::1]/es", none⟩ request ∧
      ¬ StaysPath "http://[::1]/?x=1" ⟨"http://[::1]/?x=1", none⟩ request ∧
      ¬ StaysPath "http://[::1]/#es/" ⟨"http://[::1]/#es", none⟩ request ∧
      ¬ StaysPath "http://[::1]/ " ⟨"http://[::1]/ ", none⟩ request := by
  intro request
  have hslashes : Client.new "http://[::1]/es//" = .ok ⟨"http://[::1]/es", none⟩ := by decide +kernel
  have hquery : Client.new "http://[::1]/?x=1" = .ok ⟨"http://[::1]/?x=1", none⟩ := by decide +kernel
  have hfragment : Client.new "http://[::1]/#es/" = .ok ⟨"http://[::1]/#es", none⟩ := by decide +kernel
  have hblank : Client.new "http://[::1]/ " = .ok ⟨"http://[::1]/ ", none⟩ := by decide +kernel
  have hplain : "http://[::1]/es//".toList.all (!endsPath ·) = true := by decide
  have hbare : IsBare "http://[::1]/es//" :=
    ⟨by decide, fun c hc ↦ by simpa using List.all_eq_true.1 hplain c hc⟩
  refine ⟨(Client.search_path_stays hslashes request).1.2 hbare, fun hstays ↦ ?_, fun hstays ↦ ?_,
    fun hstays ↦ ?_⟩
  · exact absurd (((Client.search_path_stays hquery request).1.1 hstays).plain '?' (by decide)) (by decide)
  · exact absurd (((Client.search_path_stays hfragment request).1.1 hstays).plain '#' (by decide)) (by decide)
  · exact absurd ((Client.search_path_stays hblank request).1.1 hstays).trimmed (by decide)

end LogSearch
