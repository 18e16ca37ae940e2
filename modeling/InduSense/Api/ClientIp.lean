import InduSense.Network.IpAddress
import InduSense.Shared.Values

/-!
What the API takes for the address of a client: `ClientIPResolver` of `services/api/middleware.py`.

* `ClientIPResolver`, `resolve`: the TCP peer, or the left-most entry of `X-Forwarded-For` if the
  peer is a trusted proxy.
* `trustedProxy_of_ipAddress`: an entry of the configuration that is an address trusts it only.
* `appendPeer`, `deliver`: proxies that append their peer.
* `address_eq`: what is left-most behind a chain of proxies.
* `address_iff`: the client's own address is found only if the client does not send another one.
-/

namespace InduSense.Api

open Network (IpAddress IpNetwork ipAddress ipNetwork)

/-! ### Texts -/

/-- The characters `str.strip` takes for spaces. -/
def isSpace (c : Char) : Bool :=
  let n := c.toNat
  9 ≤ n && n ≤ 13 || 28 ≤ n && n ≤ 32 || n = 133 || n = 160 || n = 5760
    || 8192 ≤ n && n ≤ 8202 || n = 8232 || n = 8233 || n = 8239 || n = 8287 || n = 12288

/-- `s.strip()`. -/
def strip (s : List Char) : List Char := (s.dropWhile isSpace).rdropWhile isSpace

/-- `fwd.split(",")[0]`. -/
def firstEntry (fwd : String) : List Char := (fwd.toList.splitOn ',').headD []

/-- An entry in front of a comma is the first one, whatever follows. -/
lemma firstEntry_append (fwd rest : String) :
    firstEntry (fwd ++ ", " ++ rest) = firstEntry fwd := by
  have h : (fwd ++ ", " ++ rest).toList = fwd.toList ++ ',' :: ' ' :: rest.toList := by
    rw [String.toList_append, String.toList_append, List.append_assoc]
    rfl
  obtain ⟨first, tail, hsplit⟩ := List.exists_cons_of_ne_nil (List.splitOn_ne_nil ',' fwd.toList)
  rw [firstEntry, firstEntry, h, List.splitOn_append_cons_self, hsplit]
  rfl

/-! ### The resolver -/

/-- Headers: their names, in lower case, and their values. -/
abbrev Headers := List (String × String)

namespace Headers

/-- The values of the headers of a name. -/
def values (headers : Headers) (name : String) : List String :=
  (headers.filter fun header => header.1 = name).map Prod.snd

/-- `request.headers.get(name, "")`: the first value. -/
def get (headers : Headers) (name : String) : String := (headers.values name).headD ""

end Headers

/-- What the resolver reads of a request: the host of its peer, and its headers. -/
structure HttpRequest where
  client : Option String
  headers : Headers

/-- `ClientIPResolver`. -/
structure ClientIPResolver where
  trustProxyHeaders : Bool
  trustedProxies : List IpNetwork

/-- The `ValueError` of an entry of the configuration. -/
def invalidEntry (repr : String → String) (entry exc : String) : PyError :=
  ⟨.valueError, "invalid entry " ++ repr entry ++ " in API_TRUSTED_PROXY_CIDRS: " ++ exc⟩

/-- The network of an entry of the configuration. -/
def trustedProxy (repr : String → String) (entry : String) : Except PyError IpNetwork := do
  let cidr ←
    if '/' ∈ entry.toList then pure entry
    else match ipAddress entry with
      | some (.v4 _) => pure (entry ++ "/32")
      | some (.v6 _) => pure (entry ++ "/128")
      | none => throw (invalidEntry repr entry
          (repr entry ++ " does not appear to be an IPv4 or IPv6 address"))
  match ipNetwork cidr with
  | some net => pure net
  | none => throw (invalidEntry repr entry
      (repr cidr ++ " does not appear to be an IPv4 or IPv6 network"))

namespace ClientIPResolver

/-- `ClientIPResolver(trust_proxy_headers, trusted_cidrs)`. -/
def new (repr : String → String) (trustProxyHeaders : Bool) (trustedCidrs : List String) :
    Except PyError ClientIPResolver := do
  let trustedProxies ← trustedCidrs.mapM (trustedProxy repr)
  pure ⟨trustProxyHeaders, trustedProxies⟩

/-- `_is_trusted_proxy`. -/
def isTrustedProxy (resolver : ClientIPResolver) (peer : String) : Bool :=
  match ipAddress peer with
  | some ip => resolver.trustedProxies.any fun net => net.contains ip
  | none => false

/-- `resolve`. -/
def resolve (resolver : ClientIPResolver) (request : HttpRequest) : String :=
  let peer := request.client.getD ""
  if !resolver.trustProxyHeaders || !resolver.isTrustedProxy peer then peer
  else
    let fwd := request.headers.get "x-forwarded-for"
    if fwd = "" then peer
    else
      let first := String.ofList (strip (firstEntry fwd))
      if first = "" then peer else first

/-- The headers of a peer count. -/
def Trusts (resolver : ClientIPResolver) (peer : String) : Prop :=
  resolver.trustProxyHeaders = true ∧ resolver.isTrustedProxy peer = true

variable {resolver : ClientIPResolver}

/-- The headers of any other peer do not. -/
lemma resolve_of_not_trusts {request : HttpRequest}
    (h : ¬ resolver.Trusts (request.client.getD "")) :
    resolver.resolve request = request.client.getD "" := by
  rw [resolve, if_pos]
  rw [Bool.or_eq_true, Bool.not_eq_true', Bool.not_eq_true']
  by_contra hboth
  rw [not_or, Bool.not_eq_false, Bool.not_eq_false] at hboth
  exact h hboth

/-- For a trusted proxy it is the first entry, if there is one. -/
lemma resolve_of_trusts {request : HttpRequest} (h : resolver.Trusts (request.client.getD "")) :
    resolver.resolve request
      = if strip (firstEntry (request.headers.get "x-forwarded-for")) = [] then
          request.client.getD ""
        else
          String.ofList (strip (firstEntry (request.headers.get "x-forwarded-for"))) := by
  rw [resolve, if_neg (by rw [h.1, h.2]; decide)]
  by_cases hfwd : request.headers.get "x-forwarded-for" = ""
  · rw [if_pos hfwd, hfwd, if_pos (by decide)]
  · rw [if_neg hfwd]
    by_cases hfirst : strip (firstEntry (request.headers.get "x-forwarded-for")) = []
    · rw [if_pos hfirst, hfirst, if_pos rfl]
    · have hne : String.ofList (strip (firstEntry (request.headers.get "x-forwarded-for"))) ≠ "" :=
        fun h => hfirst (String.ofList_injective h)
      rw [if_neg hfirst, if_neg hne]

end ClientIPResolver

/-- **An entry without a prefix trusts one address.** -/
lemma trustedProxy_of_ipAddress (repr : String → String) {entry : String} {ip : IpAddress}
    (h : ipAddress entry = some ip) :
    ∃ net, trustedProxy repr entry = .ok net ∧ ∀ ip', net.contains ip' = true ↔ ip' = ip := by
  have hslash := Network.slash_not_mem h
  cases ip with
  | v4 ip =>
      refine ⟨.v4 (.of ip 32), ?_, fun ip' => ?_⟩
      · rw [trustedProxy, if_neg hslash, h]
        show (match ipNetwork (entry ++ "/32") with | some net => _ | none => _) = _
        rw [Network.ipNetwork_v4 h]
        rfl
      · cases ip' with
        | v4 ip' =>
            rw [IpNetwork.contains, Network.Net.contains_of_full, IpAddress.v4.injEq]
        | v6 ip' => exact ⟨fun h => absurd h Bool.false_ne_true, fun h => by cases h⟩
  | v6 ip =>
      refine ⟨.v6 (.of ip 128), ?_, fun ip' => ?_⟩
      · rw [trustedProxy, if_neg hslash, h]
        show (match ipNetwork (entry ++ "/128") with | some net => _ | none => _) = _
        rw [Network.ipNetwork_v6 h]
        rfl
      · cases ip' with
        | v4 ip' => exact ⟨fun h => absurd h Bool.false_ne_true, fun h => by cases h⟩
        | v6 ip' =>
            rw [IpNetwork.contains, Network.Net.contains_of_full, IpAddress.v6.injEq]

/-! ### Chains of proxies -/

/-- The values of `X-Forwarded-For` and the peer, joined with commas. -/
def forwarded (values : List String) (peer : String) : String :=
  values.foldr (fun value rest => value ++ ", " ++ rest) peer

/-- The headers a proxy passes on: it appends its peer to `X-Forwarded-For`. -/
def appendPeer (peer : String) (headers : Headers) : Headers :=
  ("x-forwarded-for", forwarded (headers.values "x-forwarded-for") peer)
    :: headers.filter fun header => header.1 ≠ "x-forwarded-for"

/-- The request that reaches the API when `peer` sends headers through proxies. -/
def deliver (peer : String) : List String → Headers → HttpRequest
  | [], headers => ⟨some peer, headers⟩
  | proxy :: proxies, headers => deliver proxy proxies (appendPeer peer headers)

lemma values_appendPeer (peer : String) (headers : Headers) :
    (appendPeer peer headers).values "x-forwarded-for"
      = [forwarded (headers.values "x-forwarded-for") peer] := by
  rw [appendPeer, Headers.values, List.filter_cons_of_pos (by simp), List.filter_filter]
  simp

/-- The first entry once a peer is appended. -/
lemma firstEntry_forwarded (values : List String) (peer : String) :
    firstEntry (forwarded values peer) = firstEntry (values.headD peer) := by
  cases values with
  | nil => rfl
  | cons value values => exact firstEntry_append value (forwarded values peer)

/-- The API's peer is the last proxy. -/
lemma deliver_client (peer : String) (proxies : List String) (headers : Headers) :
    (deliver peer proxies headers).client = some (proxies.getLastD peer) := by
  induction proxies generalizing peer headers with
  | nil => rfl
  | cons proxy proxies ih =>
      rw [deliver, ih, List.getLastD_cons]

/-- What a proxy appends is behind the first entry, and so it stays along the chain. -/
lemma firstEntry_deliver (peer : String) (proxies : List String) (headers : Headers)
    {value : String} (h : headers.values "x-forwarded-for" = [value]) :
    firstEntry ((deliver peer proxies headers).headers.get "x-forwarded-for")
      = firstEntry value := by
  induction proxies generalizing peer headers value with
  | nil => rw [deliver, Headers.get, h, List.headD_cons]
  | cons proxy proxies ih =>
      rw [deliver, ih _ _ (values_appendPeer peer headers), firstEntry_forwarded, h,
        List.headD_cons]

/-- The text of a TCP peer: an address, without spaces and commas. -/
structure PeerText where
  text : String
  nonempty : text ≠ ""
  plain : ∀ c ∈ text.toList, c ≠ ',' ∧ isSpace c = false

namespace PeerText

variable (peer : PeerText)

lemma firstEntry_text : firstEntry peer.text = peer.text.toList := by
  have h : ',' ∉ peer.text.toList := fun hmem => (peer.plain _ hmem).1 rfl
  rw [firstEntry, List.splitOn_eq_singleton h, List.headD_cons]

lemma strip_text : strip peer.text.toList = peer.text.toList := by
  have hspace : ∀ c ∈ peer.text.toList, ¬ isSpace c = true := fun c hc => by
    rw [(peer.plain c hc).2]
    exact Bool.false_ne_true
  rw [strip, List.dropWhile_eq_self_iff.mpr fun h => hspace _ (List.getElem_mem h),
    List.rdropWhile_eq_self_iff.mpr fun h => hspace _ (List.getLast_mem h)]

lemma toList_ne_nil : peer.text.toList ≠ [] :=
  fun h => peer.nonempty (String.toList_eq_nil_iff.mp h)

end PeerText

/-- No character of an address is a space or a comma. -/
lemma plain_of_isAddressChar {c : Char} (h : Network.IsAddressChar c) :
    c ≠ ',' ∧ isSpace c = false := by
  have hle : ∀ {a b : Char}, a ≤ b → a.toNat ≤ b.toNat := fun h => h
  have hrange : 46 ≤ c.toNat ∧ c.toNat ≤ 58 ∨ 65 ≤ c.toNat ∧ c.toNat ≤ 70
      ∨ 97 ≤ c.toNat ∧ c.toNat ≤ 102 := by
    rcases h with rfl | rfl | ⟨digit, h⟩
    · exact .inl (by decide)
    · exact .inl (by decide)
    · rw [hexDigit] at h
      split at h
      · rename_i hdigit
        exact .inl ⟨(hle hdigit.1).trans' (by decide), (hle hdigit.2).trans (by decide)⟩
      split at h
      · rename_i hlower
        exact .inr (.inr ⟨hle hlower.1, hle hlower.2⟩)
      split at h
      · rename_i hupper
        exact .inr (.inl ⟨hle hupper.1, hle hupper.2⟩)
      · cases h
  constructor
  · rintro rfl
    exact absurd hrange (by decide)
  · simp only [isSpace, Bool.or_eq_false_iff, Bool.and_eq_false_iff, decide_eq_false_iff_not]
    omega

/-- The addresses Python reads are such texts. -/
def PeerText.ofAddress (text : String) (h : (ipAddress text).isSome = true)
    (hzone : '%' ∉ text.toList) : PeerText where
  text := text
  nonempty := by
    rintro rfl
    exact absurd h (by decide)
  plain c hc := plain_of_isAddressChar (Network.isAddressChar_of_ipAddress h hzone c hc)

/-- A chain of proxies that the resolver trusts, the outermost one first. -/
structure ProxyChain (resolver : ClientIPResolver) where
  proxies : List String
  nonempty : proxies ≠ []
  trusted : ∀ proxy ∈ proxies, resolver.Trusts proxy

namespace ProxyChain

variable {resolver : ClientIPResolver} (chain : ProxyChain resolver) (client : PeerText)

/-- The address the API finds for a client that sends headers to the outermost proxy. -/
def address (headers : Headers) : String :=
  resolver.resolve (deliver client.text chain.proxies headers)

/-- The innermost proxy. -/
def innermost : String := chain.proxies.getLast chain.nonempty

/-- **What the client sends is what is found.**  The address is the first entry of the client's own
`X-Forwarded-For`, its peer address if there is none, and the innermost proxy if it is blank. -/
lemma address_eq (headers : Headers) :
    chain.address client headers
      = let first := strip (firstEntry ((headers.values "x-forwarded-for").headD client.text))
        if first = [] then chain.innermost else String.ofList first := by
  obtain ⟨proxy, proxies, hproxies⟩ := List.exists_cons_of_ne_nil chain.nonempty
  have hpeer : (deliver client.text chain.proxies headers).client.getD "" = chain.innermost := by
    rw [deliver_client, Option.getD_some, innermost, List.getLastD_eq_getLast?,
      List.getLast?_eq_some_getLast chain.nonempty, Option.getD_some]
  have hfirst : firstEntry ((deliver client.text chain.proxies headers).headers.get
      "x-forwarded-for") = firstEntry ((headers.values "x-forwarded-for").headD client.text) := by
    rw [hproxies, deliver, firstEntry_deliver _ _ _ (values_appendPeer client.text headers),
      firstEntry_forwarded]
  have htrusts : resolver.Trusts ((deliver client.text chain.proxies headers).client.getD "") := by
    rw [hpeer]
    exact chain.trusted _ (List.getLast_mem chain.nonempty)
  rw [address, ClientIPResolver.resolve_of_trusts htrusts, hpeer, hfirst]

/-- The client sends no `X-Forwarded-For`, or one that starts with its own address. -/
def Honest (headers : Headers) : Prop :=
  ∀ value ∈ (headers.values "x-forwarded-for").head?,
    String.ofList (strip (firstEntry value)) = client.text

/-- One run: the client's own address is found if it is honest, and only then. -/
lemma address_eq_client_iff (hclient : ¬ resolver.Trusts client.text) (headers : Headers) :
    chain.address client headers = client.text ↔ Honest client headers := by
  have hinnermost : chain.innermost ≠ client.text := fun h =>
    hclient (h ▸ chain.trusted _ (List.getLast_mem chain.nonempty))
  rw [address_eq, Honest]
  cases headers.values "x-forwarded-for" with
  | nil =>
      rw [List.headD_nil, client.firstEntry_text, client.strip_text, if_neg client.toList_ne_nil,
        String.ofList_toList]
      exact ⟨fun _ value hvalue => absurd hvalue (by simp), fun _ => rfl⟩
  | cons value values =>
      rw [List.headD_cons, List.head?_cons]
      simp only [Option.mem_some_iff, forall_eq']
      by_cases hblank : strip (firstEntry value) = []
      · rw [if_pos hblank, hblank]
        exact ⟨fun h => absurd h hinnermost, fun h => absurd h.symm client.nonempty⟩
      · rw [if_neg hblank]

end ProxyChain

/-- **When forwarding cannot be spoofed.**  Behind trusted proxies, two headers of one untrusted
client yield its own address exactly when each of them starts with that address or is absent.  For
an untrusted peer no header counts. -/
theorem address_iff (resolver : ClientIPResolver) (chain : ProxyChain resolver) (client : PeerText)
    (hclient : ¬ resolver.Trusts client.text) (headers₁ headers₂ : Headers) :
    (chain.address client headers₁ = chain.address client headers₂
          ∧ chain.address client headers₁ = client.text
        ↔ ProxyChain.Honest client headers₁ ∧ ProxyChain.Honest client headers₂)
      ∧ ∀ request : HttpRequest, ¬ resolver.Trusts (request.client.getD "") →
          ∀ headers, resolver.resolve { request with headers := headers }
            = resolver.resolve request := by
  constructor
  · rw [← chain.address_eq_client_iff client hclient, ← chain.address_eq_client_iff client hclient]
    exact ⟨fun ⟨hsame, h⟩ => ⟨h, hsame ▸ h⟩, fun ⟨h₁, h₂⟩ => ⟨h₁.trans h₂.symm, h₁⟩⟩
  · intro request h headers
    have hpeer : ∀ headers : Headers,
        resolver.resolve ⟨request.client, headers⟩ = request.client.getD "" :=
      fun headers => ClientIPResolver.resolve_of_not_trusts h
    exact (hpeer headers).trans (hpeer request.headers).symm

/-- A proxy at `10.0.0.1`, as the API's own tests configure it. -/
def behindOneProxy : ClientIPResolver := ⟨true, [.v4 (.of 0x0a000001 32)]⟩

lemma behindOneProxy_trusts : behindOneProxy.Trusts "10.0.0.1" := by
  refine ⟨rfl, ?_⟩
  decide +kernel

/-- The chain of that proxy alone. -/
def oneProxy : ProxyChain behindOneProxy where
  proxies := ["10.0.0.1"]
  nonempty := by decide
  trusted := List.forall_mem_singleton.mpr behindOneProxy_trusts

/-- A client outside. -/
def outside : PeerText := .ofAddress "203.0.113.9" (by decide +kernel) (by decide)

lemma outside_not_trusts : ¬ behindOneProxy.Trusts outside.text := by
  rintro ⟨-, h⟩
  revert h
  decide +kernel

/-- The condition at a client that sends no header, and one that sends a header. -/
theorem address_iff_outside :
    (oneProxy.address outside [] = oneProxy.address outside [("x-forwarded-for", "1.1.1.1")]
        ∧ oneProxy.address outside [] = outside.text
      ↔ ProxyChain.Honest outside [] ∧ ProxyChain.Honest outside [("x-forwarded-for", "1.1.1.1")])
    ∧ ∀ request : HttpRequest, ¬ behindOneProxy.Trusts (request.client.getD "") →
        ∀ headers, behindOneProxy.resolve { request with headers := headers }
          = behindOneProxy.resolve request :=
  address_iff behindOneProxy oneProxy outside outside_not_trusts [] [("x-forwarded-for", "1.1.1.1")]

/-- **The client chooses its address.** -/
theorem forged_address :
    ClientIPResolver.new (fun s => "'" ++ s ++ "'") true ["10.0.0.1"] = .ok behindOneProxy
      ∧ ¬ behindOneProxy.Trusts outside.text
      ∧ oneProxy.address outside [("x-forwarded-for", "1.1.1.1")] = "1.1.1.1"
      ∧ oneProxy.address outside [("x-forwarded-for", "2.2.2.2")] = "2.2.2.2" := by
  refine ⟨?_, outside_not_trusts, ?_, ?_⟩
  · rfl
  · decide +kernel
  · decide +kernel

end InduSense.Api
