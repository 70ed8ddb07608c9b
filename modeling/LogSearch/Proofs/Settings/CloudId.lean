import LogSearch.Proofs.Text.Base64
import LogSearch.Proofs.Text.Cutting
import LogSearch.Proofs.Text.Numeral
import LogSearch.Settings.Basic

/-!
# What cloud ids name

An id is read from the outside in: at its first colon, through base64 and UTF-8, at the first two dollar
signs, at the last colon of the address.  Every step has one inverse, so an id says one thing (`Said`), and
what it says is found again (`decode_id`).

An address must not be empty, but it is looked at with its port: in front of a port the host may be missing,
and then the URL has a host that ends in a dot and nothing behind it (`decode_names_cluster`).

## What is here

* `Said`, `Said.Names` — what an id says, and the port that it names;
* `splitPort_append`, `readCluster_text` — an address, and the text of an id;
* `decode_names_cluster` — the ids that are read, and what is read from them;
* `decode_encoded_id` — the ids of clusters.
-/

set_option autoImplicit false
namespace LogSearch.CloudId

open Text (IsNatural append_cons_inj dropWhile_ne_append dropWhile_ne_of_notMem takeWhile_ne_append
  takeWhile_ne_of_notMem)

/-! ## Addresses -/

section address

variable {host port : List Char}

theorem splitPort_of_notMem (h : ':' ∉ host) : splitPort host = (host, none) := by
  rw [splitPort, dropWhile_ne_of_notMem (by simpa using h)]

/-- An address is cut at its last colon. -/
theorem splitPort_append (h : ':' ∉ port) : splitPort (host ++ ':' :: port) = (host, some port) := by
  have hreverse : (host ++ ':' :: port).reverse = port.reverse ++ ':' :: host.reverse := by simp
  have hport : ':' ∉ port.reverse := by simpa using h
  simp only [splitPort, hreverse, dropWhile_ne_append hport, takeWhile_ne_append hport,
    List.reverse_reverse]

theorem exists_last_cut {address : List Char} (h : ':' ∈ address) :
    ∃ host port, address = host ++ ':' :: port ∧ ':' ∉ port := by
  obtain ⟨port, host, haddress, hport⟩ := List.eq_append_cons_of_mem (List.mem_reverse.2 h)
  refine ⟨host.reverse, port.reverse, ?_, by simpa using hport⟩
  rw [← List.reverse_reverse address, haddress]
  simp

end address

/-! ## What an id says -/

/-- What an id says. -/
structure Said where
  /-- The name for people. -/
  name : String
  host : String
  /-- The port as it is written, if it is. -/
  port : Option String
  cluster : String
  /-- What stands behind a second dollar sign. -/
  more : Option String
  deriving DecidableEq, Repr

namespace Said

/-- A part of a text with the sign in front of it, if there is the part. -/
def behind (sign : Char) : Option String → List Char
  | none => []
  | some part => sign :: part.toList

/-- The host with its port. -/
def address (said : Said) : List Char := said.host.toList ++ behind ':' said.port

/-- The text that is in base64. -/
def text (said : Said) : List Char :=
  said.address ++ '$' :: said.cluster.toList ++ behind '$' said.more

/-- The id that says it. -/
def id (said : Said) : String := said.name ++ ":" ++ Text.Base64.encodeText (String.ofList said.text)

/-- The address has this port.  A host is given unless a port is. -/
def HasPort (said : Said) (number : Nat) : Prop :=
  match said.port with
  | none => said.host ≠ "" ∧ ':' ∉ said.host.toList ∧ number = defaultPort
  | some port => IsNatural port.toList number ∧ number ≤ 65535

/-- What is said names a cluster that listens at the port. -/
structure Names (said : Said) (number : Nat) : Prop where
  name : ':' ∉ said.name.toList
  host : '$' ∉ said.host.toList
  port : said.HasPort number
  cluster : said.cluster ≠ ""
  cluster_plain : '$' ∉ said.cluster.toList

/-- The URL of the cluster. -/
def url (said : Said) (number : Nat) : String := s!"https://{said.cluster}.{said.host}:{number}"

end Said

section said

variable {said other : Said} {number : Nat}

theorem Said.HasPort.notMem (h : said.HasPort number) {c : Char} (hdigit : c.isDigit = false)
    (hplus : c ≠ '+') : ∀ port ∈ said.port, c ∉ port.toList := by
  intro port hport hc
  rw [HasPort, hport] at h
  rcases h.1.isDigit_or_plus hc with hc | hc
  · exact absurd hc (hdigit ▸ by decide)
  · exact hplus hc

theorem Said.Names.splitPort_address (h : said.Names number) :
    splitPort said.address = (said.host.toList, said.port.map String.toList) := by
  have hcolon := h.port.notMem (c := ':') rfl (by decide)
  have hport := h.port
  rw [Said.HasPort] at hport
  rw [Said.address]
  cases hp : said.port with
  | none =>
    rw [hp] at hport
    rw [Said.behind, List.append_nil, splitPort_of_notMem hport.2.1]
    rfl
  | some port => exact splitPort_append (hcolon port hp)

theorem Said.Names.dollar_notMem (h : said.Names number) : '$' ∉ said.address := by
  have hdollar := h.port.notMem (c := '$') rfl (by decide)
  rw [Said.address, List.mem_append, not_or]
  refine ⟨h.host, ?_⟩
  cases hp : said.port with
  | none => exact List.not_mem_nil
  | some port => exact List.not_mem_cons_of_ne_of_not_mem (by decide) (hdollar port hp)

theorem Said.Names.address_ne_nil (h : said.Names number) : said.address ≠ [] := by
  have hport := h.port
  rw [Said.HasPort] at hport
  rw [Said.address]
  cases hp : said.port with
  | none =>
    rw [hp] at hport
    simpa [Said.behind] using hport.1
  | some port => simp [Said.behind]

/-- The name of the cluster ends at the next dollar sign, if there is one. -/
theorem takeWhile_behind {cluster : List Char} (h : '$' ∉ cluster) (more : Option String) :
    (cluster ++ Said.behind '$' more).takeWhile (· != '$') = cluster := by
  cases more with
  | none => rw [Said.behind, List.append_nil, takeWhile_ne_of_notMem h]
  | some text => exact takeWhile_ne_append h

theorem readCluster_text (h : said.Names number) :
    readCluster said.text = .ok (said.url number) := by
  have htext : said.text = said.address ++ '$' :: (said.cluster.toList ++ Said.behind '$' said.more) :=
    List.append_assoc _ _ _
  have hcluster : said.cluster.toList ≠ [] := by simpa using h.cluster
  have hport := h.port
  rw [Said.HasPort] at hport
  simp only [readCluster, htext, takeWhile_ne_append h.dollar_notMem, dropWhile_ne_append h.dollar_notMem,
    List.drop_succ_cons, List.drop_zero, takeWhile_behind h.cluster_plain, h.splitPort_address]
  rw [if_neg (by simp [h.address_ne_nil, hcluster])]
  cases hp : said.port with
  | none =>
    rw [hp] at hport
    simp [clusterUrl, Said.url, hport.2.2, pure, Except.pure]
  | some port =>
    rw [hp] at hport
    have hread := Text.readNatural_eq_ok_iff.2 hport
    simp [clusterUrl, Said.url, hread, pure, Except.pure]

/-- What is said is found again. -/
theorem decode_id (h : said.Names number) : decode said.id = .ok (said.url number) := by
  have hid : said.id.toList
      = said.name.toList ++ ':' :: (Text.Base64.encodeText (String.ofList said.text)).toList := by
    simp [Said.id]
  have hbytes := Text.Base64.decode_text_eq_ok_iff.2
    (rfl : (Text.Base64.encodeText (String.ofList said.text)).toList = _)
  rw [String.toList_ofList] at hbytes
  rw [decode, hid, dropWhile_ne_append h.name]
  dsimp only
  rw [hbytes]
  simp only [Except.mapError, bind, Except.bind, Text.Utf8.decode_eq_ok_iff.2 rfl]
  exact readCluster_text h

end said

/-! ## Ids that are read -/

/-- A text with a dollar sign is an address, the name of a cluster, and what else there is. -/
theorem exists_parts {decoded : List Char} (h : '$' ∈ decoded) : ∃ address cluster more,
    decoded = address ++ '$' :: (cluster ++ Said.behind '$' more) ∧ '$' ∉ address ∧ '$' ∉ cluster := by
  obtain ⟨address, rest, rfl, haddress⟩ := List.eq_append_cons_of_mem h
  by_cases hrest : '$' ∈ rest
  · obtain ⟨cluster, more, rfl, hcluster⟩ := List.eq_append_cons_of_mem hrest
    exact ⟨address, cluster, some (String.ofList more), by simp [Said.behind], haddress, hcluster⟩
  · exact ⟨address, rest, none, by simp [Said.behind], haddress, hrest⟩

theorem dollar_mem_of_readCluster {decoded : List Char} {url : String}
    (h : readCluster decoded = .ok url) : '$' ∈ decoded := by
  by_contra hdollar
  rw [readCluster] at h
  simp [dropWhile_ne_of_notMem hdollar] at h
  cases h

/-- What is read was said. -/
theorem exists_said_of_readCluster {decoded : List Char} {url name : String}
    (hname : ':' ∉ name.toList) (h : readCluster decoded = .ok url) :
    ∃ (said : Said) (number : Nat), said.Names number ∧ said.name = name ∧ said.text = decoded := by
  obtain ⟨address, cluster, more, rfl, haddress, hcluster⟩ := exists_parts (dollar_mem_of_readCluster h)
  simp only [readCluster, takeWhile_ne_append haddress, dropWhile_ne_append haddress,
    List.drop_succ_cons, List.drop_zero, takeWhile_behind hcluster] at h
  split at h
  · cases h
  · next hempty =>
    simp only [Bool.or_eq_true, List.isEmpty_iff, not_or] at hempty
    by_cases hcolon : ':' ∈ address
    · obtain ⟨host, port, rfl, hport⟩ := exists_last_cut hcolon
      rw [splitPort_append hport] at h
      cases hread : Text.readNatural 65535 port with
      | error fault =>
        simp only [hread] at h
        cases h
      | ok number =>
        have hnumber : IsNatural (String.ofList port).toList number ∧ number ≤ 65535 := by
          rw [String.toList_ofList]
          exact Text.readNatural_eq_ok_iff.1 hread
        have hhost : '$' ∉ host := fun hmem ↦ haddress (List.mem_append_left _ hmem)
        refine ⟨⟨name, String.ofList host, some (String.ofList port), String.ofList cluster, more⟩,
          number, ⟨hname, ?_, hnumber, ?_, ?_⟩, rfl, ?_⟩
        · simpa using hhost
        · simpa using hempty.2
        · simpa using hcluster
        · simp [Said.text, Said.address, Said.behind]
    · refine ⟨⟨name, String.ofList address, none, String.ofList cluster, more⟩, defaultPort,
        ⟨hname, ?_, ⟨?_, ?_, rfl⟩, ?_, ?_⟩, rfl, ?_⟩
      · simpa using haddress
      · simpa using hempty.1
      · simpa using hcolon
      · simpa using hempty.2
      · simpa using hcluster
      · simp [Said.text, Said.address, Said.behind]

/-- An id that is read says what is read from it. -/
theorem exists_said_of_decode {id url : String} (h : decode id = .ok url) :
    ∃ (said : Said) (number : Nat), said.Names number ∧ said.id = id ∧ url = said.url number := by
  have hcolon : ':' ∈ id.toList := by
    by_contra hcolon
    rw [decode, dropWhile_ne_of_notMem hcolon] at h
    cases h
  obtain ⟨name, encoded, hid, hname⟩ := List.eq_append_cons_of_mem hcolon
  have hread := h
  simp only [decode, hid, dropWhile_ne_append hname, bind_eq_ok_iff, mapError_eq_ok_iff] at hread
  obtain ⟨bytes, hbytes, decoded, hdecoded, hcluster⟩ := hread
  have hplain : ':' ∉ (String.ofList name).toList := by rwa [String.toList_ofList]
  obtain ⟨said, number, hnames, hsaid, rfl⟩ := exists_said_of_readCluster hplain hcluster
  obtain rfl := Text.Utf8.decode_eq_ok_iff.1 hdecoded
  have hencoded : encoded = (Text.Base64.encodeText (String.ofList said.text)).toList :=
    Text.Base64.decode_text_eq_ok_iff.1 (by rw [String.toList_ofList, hbytes])
  have hsame : said.id = id := by
    rw [← String.toList_inj, hid, hencoded, Said.id, hsaid]
    simp
  exact ⟨said, number, hnames, hsame, Except.ok.inj (h.symm.trans (hsame ▸ decode_id hnames))⟩

/-! ## An id says one thing -/

section unique

variable {said other : Said} {number number' : Nat}

theorem behind_inj {sign : Char} {more more' : Option String}
    (h : Said.behind sign more = Said.behind sign more') : more = more' := by
  cases more with
  | none =>
    cases more' with
    | none => rfl
    | some text' => cases h
  | some text =>
    cases more' with
    | none => cases h
    | some text' => exact congrArg some (String.toList_inj.1 (List.cons.inj h).2)

theorem Said.Names.eq_of_text (h : said.Names number) (h' : other.Names number')
    (hname : said.name = other.name) (htext : said.text = other.text) : said = other := by
  have hparts : said.address ++ '$' :: (said.cluster.toList ++ Said.behind '$' said.more)
      = other.address ++ '$' :: (other.cluster.toList ++ Said.behind '$' other.more) := by
    simpa [Said.text] using htext
  obtain ⟨haddress, hrest⟩ := append_cons_inj h.dollar_notMem h'.dollar_notMem hparts
  have hcluster : said.cluster.toList = other.cluster.toList := by
    rw [← takeWhile_behind h.cluster_plain said.more, hrest, takeWhile_behind h'.cluster_plain]
  rw [hcluster] at hrest
  have hmore := behind_inj (List.append_cancel_left hrest)
  have hsplit := congrArg splitPort haddress
  rw [h.splitPort_address, h'.splitPort_address, Prod.mk.injEq] at hsplit
  have hport := Option.map_injective (fun _ _ ↦ String.toList_inj.1) hsplit.2
  obtain ⟨name, host, port, cluster, more⟩ := said
  obtain ⟨name', host', port', cluster', more'⟩ := other
  simp only [Said.mk.injEq]
  exact ⟨hname, String.toList_inj.1 hsplit.1, hport, String.toList_inj.1 hcluster, hmore⟩

/-- An id says one thing. -/
theorem Said.Names.eq_of_id (h : said.Names number) (h' : other.Names number')
    (hid : said.id = other.id) : said = other := by
  have hparts : said.name.toList ++ ':' :: (Text.Base64.encodeText (String.ofList said.text)).toList
      = other.name.toList ++ ':' :: (Text.Base64.encodeText (String.ofList other.text)).toList := by
    simpa [Said.id] using congrArg String.toList hid
  obtain ⟨hname, hspelled⟩ := append_cons_inj h.name h'.name hparts
  have htext := Text.Base64.encodeText_injective (String.toList_inj.1 hspelled)
  exact h.eq_of_text h' (String.toList_inj.1 hname) (String.ofList_injective htext)

end unique

/-! ## All ids -/

/-- **The ids that are read**, and what is read from them: a name without a colon, a colon and in base64 an
address and the name of a cluster with a dollar sign between them, neither of them empty, and the URL is
made of these.  An address is a host without a colon, or any host with a colon and a port that fits 16 bits
behind it.  The first kind of host is not empty; the second may be. -/
theorem decode_names_cluster (id url : String) :
    decode id = .ok url ↔
      ∃! said : Said, said.id = id ∧ ∃ number, said.Names number ∧ url = said.url number := by
  constructor
  · intro h
    obtain ⟨said, number, hnames, hid, hurl⟩ := exists_said_of_decode h
    refine ⟨said, ⟨hid, number, hnames, hurl⟩, ?_⟩
    rintro other ⟨hother, number', hnames', -⟩
    exact hnames'.eq_of_id hnames (hother.trans hid.symm)
  · rintro ⟨said, ⟨rfl, number, hnames, rfl⟩, -⟩
    exact decode_id hnames

/-- An id without a host. -/
example : decode "name:OjgwJHV1aWQ=" = .ok "https://uuid.:80" := by decide +kernel

theorem encode_eq_id (name host cluster : String) (port : Option Nat) (more : Option String) :
    encode name host port cluster more = Said.id ⟨name, host, port.map toString, cluster, more⟩ := by
  have hbehind (sign : Char) (part : Option String) :
      Said.behind sign part = (part.elim "" (String.singleton sign ++ ·)).toList := by
    cases part <;> simp [Said.behind]
  have htext : Said.text ⟨name, host, port.map toString, cluster, more⟩
      = (host ++ (port.map toString).elim "" (":" ++ ·) ++ "$" ++ cluster ++
          more.elim "" ("$" ++ ·)).toList := by
    simp [Said.text, Said.address, hbehind]
  rw [Said.id, htext, String.ofList_toList]
  cases port <;> cases more <;> rfl

/-- **The id of a cluster names it**: what is read from it is the URL of the cluster at its host, with its
port or the default one, whatever else the id says; and settings with the id have this URL. -/
theorem decode_encoded_id {name host cluster : String} {port : Option Nat} (more : Option String)
    (hname : ':' ∉ name.toList) (hhost : host ≠ "" ∧ ':' ∉ host.toList ∧ '$' ∉ host.toList)
    (hcluster : cluster ≠ "" ∧ '$' ∉ cluster.toList) (hport : ∀ n ∈ port, n < 65536) :
    let url := s!"https://{cluster}.{host}:{port.getD 443}"
    decode (encode name host port cluster more) = .ok url ∧
      ∀ settings : Settings, settings.url = "cloud:" ++ encode name host port cluster more →
        settings.baseUrl = .ok url := by
  intro url
  have hnames : Said.Names ⟨name, host, port.map toString, cluster, more⟩ (port.getD 443) := by
    refine ⟨hname, hhost.2.2, ?_, hcluster.1, hcluster.2⟩
    cases port with
    | none => exact ⟨hhost.1, hhost.2.1, rfl⟩
    | some n =>
      have hdigits : (toString n).toList = Nat.toDigits 10 n := by
        rw [Nat.toString_eq_repr, Nat.toList_repr]
      refine ⟨?_, Nat.le_of_lt_succ (hport n rfl)⟩
      rw [hdigits]
      exact Text.isNatural_toDigits n
  have hdecode : decode (encode name host port cluster more) = .ok url := by
    rw [encode_eq_id]
    exact decode_id hnames
  refine ⟨hdecode, fun settings hurl ↦ ?_⟩
  have hlist : settings.url.toList
      = Settings.cloudMark ++ (encode name host port cluster more).toList := by
    rw [hurl, String.toList_append]
    rfl
  have hcloud : settings.isCloud = true := by
    rw [Settings.isCloud, hlist]
    exact List.isPrefixOf_iff_prefix.2 (List.prefix_append _ _)
  rw [Settings.baseUrl, if_pos hcloud, hlist, List.drop_left, String.ofList_toList, hdecode,
    Except.mapError]

/-- A cluster whose name has a colon, at a host that is not all ASCII, with a port and three more dollar
signs behind. -/
theorem decode_encoded_id_sample :
    let id := encode "prod" "höst.example" (some 65535) "a:b" (some "$kibana$")
    decode id = .ok "https://a:b.höst.example:65535" ∧
      Settings.baseUrl ⟨"cloud:" ++ id, none, none, .basic, Settings.defaultTimeout⟩
        = .ok "https://a:b.höst.example:65535" := by
  intro id
  obtain ⟨hdecode, hsettings⟩ := @decode_encoded_id "prod" "höst.example" "a:b" (some 65535)
    (some "$kibana$") (by decide) (by decide) (by decide) (by decide)
  exact ⟨hdecode, hsettings _ rfl⟩

end LogSearch.CloudId
