import LogSearch.Proofs.Text.Cutting
import LogSearch.Url.Basic

/-!
# The parts of a URL

A URL is read from the left, and every part ends at a character of its own kind: the scheme at its colon,
the slashes and the host at the first slash or the like, the path at the first `?` or `#`.  So what a part
is does not depend on what stands behind it, and a URL of the web is its host with a path and a query
(`read_eq_ok_web_iff`).

Blanks are cut off at both ends first; in front of a character that stays they are the same whatever
stands behind it (`clean_append_cons`).

## What is here

* `trimmed`, `clean_append_cons` — a text less its edges;
* `front`, `back` — a text up to its first `?` or `#`, and from there;
* `Opens`, `read_eq_ok_web_iff` — URLs of the web;
* `Opens.append_cons`, `Opens.of_append_cons`, `Opens.of_append_slashes` — the same host with something
  else behind it.
-/

set_option autoImplicit false
namespace LogSearch.Url

open Text (dropWhile_append_cons dropWhile_dropWhile dropWhile_takeWhile rdropWhile_append_cons
  takeWhile_append_cons)

/-! ## Edges -/

/-- A blank or control character, which is cut off at the ends of a text. -/
def isEdge (c : Char) : Bool := c.toNat ≤ 0x20

/-- A character that stays inside of a text: no tab, no line break. -/
def isKept (c : Char) : Bool := c != '\t' && c != '\n' && c != '\r'

/-- A text less the edges at its ends. -/
def trimmed (cs : List Char) : List Char := (cs.dropWhile isEdge).rdropWhile isEdge

theorem clean_eq (cs : List Char) : clean cs = (trimmed cs).filter isKept := rfl

section edges

variable {c : Char} {xs ys : List Char}

theorem isKept_of_not_isEdge (h : isEdge c = false) : isKept c = true := by
  have hne (d : Char) (hd : isEdge d = true) : c ≠ d := fun hcd ↦ by
    rw [hcd, hd] at h
    cases h
  rw [isKept, Bool.and_eq_true, Bool.and_eq_true]
  exact ⟨⟨bne_iff_ne.2 (hne _ (by decide)), bne_iff_ne.2 (hne _ (by decide))⟩,
    bne_iff_ne.2 (hne _ (by decide))⟩

theorem filter_isKept (h : ∀ d ∈ xs, isEdge d = false) : xs.filter isKept = xs :=
  List.filter_eq_self.2 fun d hd ↦ isKept_of_not_isEdge (h d hd)

theorem rdropWhile_isEdge (h : ∀ d ∈ xs, isEdge d = false) : xs.rdropWhile isEdge = xs :=
  List.rdropWhile_eq_self_iff.2 fun hne ↦ by simp [h _ (List.getLast_mem hne)]

/-- In front of a character that stays, a text is cleaned as if it ended there, but for its end. -/
theorem clean_append_cons (h : isEdge c = false) :
    clean (xs ++ c :: ys) = (xs.dropWhile isEdge).filter isKept ++ c :: (ys.rdropWhile isEdge).filter isKept := by
  rw [clean_eq, trimmed, dropWhile_append_cons h, rdropWhile_append_cons h, List.filter_append,
    List.filter_cons_of_pos (isKept_of_not_isEdge h)]

theorem dropWhile_isEdge_of_trimmed (h : trimmed xs = xs) : xs.dropWhile isEdge = xs := by
  refine (List.dropWhile_suffix _).eq_of_length_le ?_
  have hlength := (List.rdropWhile_prefix isEdge (xs.dropWhile isEdge)).length_le
  rwa [← trimmed, h] at hlength

/-- What a text that has no edges starts with has none in front. -/
theorem dropWhile_isEdge_of_prefix (h : trimmed ys = ys) (hxs : xs <+: ys) : xs.dropWhile isEdge = xs := by
  have hys := dropWhile_isEdge_of_trimmed h
  rw [List.dropWhile_eq_self_iff] at hys ⊢
  intro hl
  rw [hxs.getElem hl]
  exact hys (hl.trans_le hxs.length_le)

end edges

/-! ## Path and query -/

/-- Whether a character ends the path of a URL. -/
def endsPath (c : Char) : Bool := c == '?' || c == '#'

/-- A text up to its first `?` or `#`. -/
def front (cs : List Char) : List Char := cs.takeWhile (!endsPath ·)

/-- A text from its first `?` or `#` on. -/
def back (cs : List Char) : List Char := cs.dropWhile (!endsPath ·)

/-- The query that starts with a text, up to the fragment, as it is sent. -/
def queryOf : List Char → Option (List Char)
  | '?' :: query => some (Text.Percent.encode keepsInQuery (query.takeWhile (· != '#')))
  | _ => none

section parts

variable {c : Char} {xs ys : List Char}

theorem endsPath_iff : endsPath c = true ↔ c = '?' ∨ c = '#' := by
  rw [endsPath, Bool.or_eq_true, beq_iff_eq, beq_iff_eq]

theorem endsPath_of_mem_front (h : c ∈ front xs) : endsPath c = false := by
  simpa using List.mem_takeWhile_imp h

theorem front_eq_self (h : ∀ d ∈ xs, endsPath d = false) : front xs = xs :=
  List.takeWhile_eq_self_iff.2 fun d hd ↦ by simp [h d hd]

theorem back_append (h : ∀ d ∈ xs, endsPath d = false) : back (xs ++ ys) = back ys :=
  List.dropWhile_append_of_pos fun d hd ↦ by simp [h d hd]

theorem front_append (h : ∀ d ∈ xs, endsPath d = false) : front (xs ++ ys) = xs ++ front ys :=
  List.takeWhile_append_of_pos fun d hd ↦ by simp [h d hd]

/-- Behind the first `?` or `#` anything may stand. -/
theorem front_append_cons (h : endsPath c = true) : front (xs ++ c :: ys) = front xs :=
  takeWhile_append_cons (by simp [h])

theorem back_cons (h : endsPath c = true) : back (c :: ys) = c :: ys := by
  rw [back, List.dropWhile_cons_of_neg (by simp [h])]

theorem endsPath_of_back (h : back xs = c :: ys) : endsPath c = true := by
  have hne : back xs ≠ [] := h ▸ List.cons_ne_nil c ys
  have hhead : (!endsPath ((back xs).head hne)) = false := List.head_dropWhile_not _ hne
  simpa [h] using hhead

theorem isEdge_of_endsPath (h : endsPath c = true) : isEdge c = false := by
  obtain rfl | rfl := endsPath_iff.1 h <;> rfl

theorem endsAuthority_of_endsPath (h : endsPath c = true) : endsAuthority true c = true := by
  obtain rfl | rfl := endsPath_iff.1 h <;> rfl

theorem path_eq_front (cs : List Char) :
    (cs.takeWhile (· != '#')).takeWhile (· != '?') = front cs := by
  rw [List.takeWhile_takeWhile, front]
  congr 1
  funext c
  exact Bool.eq_iff_iff.2 (by simp [endsPath])

theorem query_eq_queryOf (cs : List Char) :
    (match (cs.takeWhile (· != '#')).dropWhile (· != '?') with
      | [] => none
      | _ :: query => some (Text.Percent.encode keepsInQuery query)) = queryOf (back cs) := by
  have hback : (cs.takeWhile (· != '#')).dropWhile (· != '?') = (back cs).takeWhile (· != '#') := by
    rw [dropWhile_takeWhile, back]
    congr 2
    funext c
    exact Bool.eq_iff_iff.2 (by simp [endsPath])
  rw [hback]
  cases hcs : back cs with
  | nil => rfl
  | cons c query =>
    have hc := endsPath_of_back hcs
    obtain rfl | rfl := endsPath_iff.1 hc <;> rfl

end parts

/-! ## URLs of the web -/

/-- A slash of either kind. -/
def isSlash (c : Char) : Bool := c == '/' || c == '\\'

/-- A character of a scheme. -/
def isSchemeChar (c : Char) : Bool := c.isAlphanum || c == '+' || c == '-' || c == '.'

/-- The host at the start of a text that goes on behind scheme and slashes. -/
def authority (cs : List Char) : List Char := cs.takeWhile (!endsAuthority true ·)

/-- What stands behind the host. -/
def behindAuthority (cs : List Char) : List Char := cs.dropWhile (!endsAuthority true ·)

/-- A host is read with what stands behind it as path and query. -/
theorem readWeb_eq (scheme cs : List Char) :
    readWeb scheme cs = (readWeb scheme (authority cs)).map fun url ↦
      { url with
        path := normalPath (front (behindAuthority cs))
        query := queryOf (back (behindAuthority cs)) } := by
  have hauthority : (authority cs).takeWhile (!endsAuthority true ·) = authority cs := List.takeWhile_idem
  have hnone : (authority cs).dropWhile (!endsAuthority true ·) = [] :=
    List.dropWhile_eq_nil_iff.2 fun _ ↦ List.mem_takeWhile_imp
  simp only [readWeb, hauthority, hnone, path_eq_front]
  rw [← authority, ← behindAuthority]
  have hquery := query_eq_queryOf (behindAuthority cs)
  generalize splitUser (authority cs) = user
  generalize splitHost false user.2 = host
  split
  · rfl
  · cases Host.parse host.1 with
    | error fault => rfl
    | ok parsed =>
      cases readPort host.2 with
      | error fault => rfl
      | ok port =>
        rw [← hquery]
        rfl

/-- What is read of a host, with what stands behind it as path and query. -/
theorem readWeb_eq_ok_iff {scheme cs : List Char} {url : Url} :
    readWeb scheme cs = .ok url ↔ ∃ site, readWeb scheme (authority cs) = .ok site ∧
      url = { site with
        path := normalPath (front (behindAuthority cs))
        query := queryOf (back (behindAuthority cs)) } := by
  rw [readWeb_eq]
  cases readWeb scheme (authority cs) with
  | error fault => simp [Except.map]
  | ok site => simp [Except.map, eq_comm]

/-- There is no URL without a host. -/
theorem readWeb_nil {scheme : List Char} {url : Url} : readWeb scheme [] ≠ .ok url := fun h ↦ by cases h

/-- A text starts with a scheme of the web, slashes and a host, and goes on with the rest. -/
structure Opens (cs scheme host rest : List Char) : Prop where
  web : isWebScheme scheme = true
  host_ne_nil : host ≠ []
  split : ∃ tail, splitScheme? cs = some (scheme, tail) ∧
    authority (tail.dropWhile isSlash) = host ∧ behindAuthority (tail.dropWhile isSlash) = rest

/-- A text that opens with a host is read as the URL of the host, with path and query. -/
theorem read_eq_ok_web_iff {text : String} {url : Url} :
    read text = .ok (.web url) ↔ ∃ scheme host rest site, Opens (clean text.toList) scheme host rest ∧
      readWeb scheme host = .ok site ∧
      url = { site with path := normalPath (front rest), query := queryOf (back rest) } := by
  constructor
  · intro h
    rw [read] at h
    split at h
    · cases h
    · next scheme tail hsplit =>
      split at h
      · next hweb =>
        cases hread : readWeb scheme (tail.dropWhile isSlash) with
        | error fault =>
          have hmap : (readWeb scheme (tail.dropWhile isSlash)).map Reading.web = .ok (.web url) := h
          rw [hread] at hmap
          cases hmap
        | ok found =>
          have hmap : (readWeb scheme (tail.dropWhile isSlash)).map Reading.web = .ok (.web url) := h
          rw [hread] at hmap
          cases hmap
          obtain ⟨site, hsite, rfl⟩ := readWeb_eq_ok_iff.1 hread
          refine ⟨scheme, _, _, site, ⟨hweb, fun hnil ↦ ?_, tail, hsplit, rfl, rfl⟩, hsite, rfl⟩
          rw [hnil] at hsite
          exact readWeb_nil hsite
      · cases hother : checkOther scheme tail with
        | error fault => rw [hother] at h; cases h
        | ok _ => rw [hother] at h; cases h
  · rintro ⟨scheme, host, rest, site, ⟨hweb, -, tail, hsplit, rfl, rfl⟩, hsite, rfl⟩
    have hread := readWeb_eq_ok_iff.2 ⟨site, hsite, rfl⟩
    rw [read, hsplit]
    dsimp only
    rw [if_pos hweb]
    exact congrArg (Except.map Reading.web) hread

/-! ## The same host with something else behind it -/

section opens

variable {c : Char} {xs ys scheme host rest : List Char}

theorem splitScheme?_eq (cs : List Char) : splitScheme? cs =
    match cs.takeWhile isSchemeChar, cs.dropWhile isSchemeChar with
    | first :: _, ':' :: rest =>
      if first.isAlpha then some ((cs.takeWhile isSchemeChar).map Char.toLower, rest) else none
    | _, _ => none := rfl

theorem splitScheme?_append_cons (hscheme : isSchemeChar c = false) (hcolon : c ≠ ':') :
    splitScheme? (xs ++ c :: ys)
      = (splitScheme? xs).map fun (scheme, tail) ↦ (scheme, tail ++ c :: ys) := by
  rw [splitScheme?_eq, splitScheme?_eq, takeWhile_append_cons hscheme, dropWhile_append_cons hscheme]
  cases xs.takeWhile isSchemeChar with
  | nil => rfl
  | cons first more =>
    cases hrest : xs.dropWhile isSchemeChar with
    | nil => simp [hcolon]
    | cons d tail =>
      by_cases hd : d = ':'
      · subst hd
        by_cases hfirst : first.isAlpha <;> simp [hfirst]
      · simp [hd]

theorem isSchemeChar_of_endsAuthority (h : endsAuthority true c = true) :
    isSchemeChar c = false ∧ c ≠ ':' := by
  simp only [endsAuthority, Bool.or_eq_true, beq_iff_eq, Bool.true_and] at h
  rcases h with ((rfl | rfl) | rfl) | rfl <;> decide

/-- Behind the host, anything may follow a character that ends it. -/
theorem Opens.append_cons (h : Opens xs scheme host rest) (hc : endsAuthority true c = true) :
    Opens (xs ++ c :: ys) scheme host (rest ++ c :: ys) := by
  obtain ⟨hweb, hhost, tail, hsplit, rfl, rfl⟩ := h
  obtain ⟨hscheme, hcolon⟩ := isSchemeChar_of_endsAuthority hc
  have hslashes : (tail ++ c :: ys).dropWhile isSlash = tail.dropWhile isSlash ++ c :: ys := by
    rw [List.dropWhile_append, if_neg]
    intro hnil
    rw [List.isEmpty_iff] at hnil
    exact hhost (by rw [hnil]; rfl)
  refine ⟨hweb, hhost, tail ++ c :: ys, ?_, ?_, ?_⟩
  · rw [splitScheme?_append_cons hscheme hcolon, hsplit]
    rfl
  · rw [hslashes]
    exact takeWhile_append_cons (by simp [hc])
  · rw [hslashes]
    exact dropWhile_append_cons (by simp [hc])

/-- No host goes beyond a `?` or `#`. -/
theorem Opens.of_append_cons (h : Opens (xs ++ c :: ys) scheme host rest) (hc : endsPath c = true) :
    ∃ rest', Opens xs scheme host rest' ∧ rest = rest' ++ c :: ys := by
  obtain ⟨hweb, hhost, tail, hsplit, rfl, rfl⟩ := h
  have hauthority := endsAuthority_of_endsPath hc
  obtain ⟨hscheme, hcolon⟩ := isSchemeChar_of_endsAuthority hauthority
  rw [splitScheme?_append_cons hscheme hcolon, Option.map_eq_some_iff] at hsplit
  obtain ⟨⟨scheme', tail'⟩, hsplit', heq⟩ := hsplit
  cases heq
  have hslash : isSlash c = false := by
    obtain rfl | rfl := endsPath_iff.1 hc <;> rfl
  have hslashes : (tail' ++ c :: ys).dropWhile isSlash = tail'.dropWhile isSlash ++ c :: ys :=
    dropWhile_append_cons hslash
  have htake : authority (tail'.dropWhile isSlash ++ c :: ys) = authority (tail'.dropWhile isSlash) :=
    takeWhile_append_cons (by simp [hauthority])
  rw [hslashes, htake] at hhost ⊢
  exact ⟨_, ⟨hweb, hhost, tail', hsplit', rfl, rfl⟩, dropWhile_append_cons (by simp [hauthority])⟩

/-- No host is found behind one slash more. -/
theorem Opens.of_append_slash (h : Opens (xs ++ ['/']) scheme host rest) :
    ∃ rest', Opens xs scheme host rest' ∧ rest = rest' ++ ['/'] := by
  obtain ⟨hweb, hhost, tail, hsplit, rfl, rfl⟩ := h
  rw [splitScheme?_append_cons (by decide) (by decide), Option.map_eq_some_iff] at hsplit
  obtain ⟨⟨scheme', tail'⟩, hsplit', heq⟩ := hsplit
  cases heq
  have hslashes : (tail' ++ ['/']).dropWhile isSlash
      = if (tail'.dropWhile isSlash).isEmpty then [] else tail'.dropWhile isSlash ++ ['/'] :=
    List.dropWhile_append
  rw [hslashes] at hhost ⊢
  split at hhost
  · exact absurd rfl hhost
  · next hempty =>
    have htake : authority (tail'.dropWhile isSlash ++ ['/']) = authority (tail'.dropWhile isSlash) :=
      takeWhile_append_cons (by decide)
    rw [if_neg hempty, htake]
    rw [htake] at hhost
    exact ⟨_, ⟨hweb, hhost, tail', hsplit', rfl, rfl⟩, dropWhile_append_cons (by decide)⟩

/-- No host is found behind slashes at the end. -/
theorem Opens.of_append_slashes {k : Nat} (h : Opens (xs ++ List.replicate k '/') scheme host rest) :
    ∃ rest', Opens xs scheme host rest' ∧ rest = rest' ++ List.replicate k '/' := by
  induction k generalizing rest with
  | zero => exact ⟨rest, by simpa using h, by simp⟩
  | succ k ih =>
    rw [List.replicate_succ', ← List.append_assoc] at h
    obtain ⟨middle, hmiddle, rfl⟩ := h.of_append_slash
    obtain ⟨rest', h', rfl⟩ := ih hmiddle
    exact ⟨rest', h', by rw [List.replicate_succ', List.append_assoc]⟩

theorem not_endsPath_of_isSchemeChar (h : isSchemeChar c = true) : (!endsPath c) = true := by
  rw [Bool.not_eq_true']
  by_contra hc
  rw [(isSchemeChar_of_endsAuthority (endsAuthority_of_endsPath (by simpa using hc))).1] at h
  cases h

theorem not_endsPath_of_isSlash (h : isSlash c = true) : (!endsPath c) = true := by
  rw [isSlash, Bool.or_eq_true, beq_iff_eq, beq_iff_eq] at h
  rcases h with rfl | rfl <;> rfl

theorem not_endsPath_of_not_endsAuthority (h : (!endsAuthority true c) = true) : (!endsPath c) = true := by
  rw [Bool.not_eq_true'] at h ⊢
  by_contra hc
  rw [endsAuthority_of_endsPath (by simpa using hc)] at h
  cases h

/-- The first `?` or `#` stands behind the host. -/
theorem Opens.back_eq (h : Opens xs scheme host rest) : back rest = back xs := by
  obtain ⟨-, -, tail, hsplit, -, rfl⟩ := h
  have htail : xs.dropWhile isSchemeChar = ':' :: tail := by
    rw [splitScheme?_eq] at hsplit
    split at hsplit
    · next hdrop =>
      split at hsplit
      · cases hsplit
        exact hdrop
      · cases hsplit
    · cases hsplit
  calc back (behindAuthority (tail.dropWhile isSlash))
      = back (tail.dropWhile isSlash) := dropWhile_dropWhile fun _ ↦ not_endsPath_of_not_endsAuthority
    _ = back tail := dropWhile_dropWhile fun _ ↦ not_endsPath_of_isSlash
    _ = back (':' :: tail) := rfl
    _ = back xs := by
      rw [← htail]
      exact dropWhile_dropWhile fun _ ↦ not_endsPath_of_isSchemeChar

theorem Opens.plain (h : Opens xs scheme host rest) (hxs : ∀ d ∈ xs, endsPath d = false) :
    ∀ d ∈ rest, endsPath d = false := by
  have hback : back xs = [] := List.dropWhile_eq_nil_iff.2 fun d hd ↦ by simp [hxs d hd]
  rw [← h.back_eq] at hback
  simpa [back] using hback

end opens

end LogSearch.Url
