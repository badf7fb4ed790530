import TelemetryRelay.Http.Exchange

/-! # Exchanges

    An exchange is asked to send one draft, and may make several requests for it: a tunnel
    is opened where a secure address is behind a proxy, and an answer can send the request on
    to another address. This module says which requests those are:

    - whatever is asked opens a tunnel or stems from the draft, and shows all its headers but
      those about a body,
    - a request follows another only if that one opened a tunnel for it, or was answered with
      where to go on; this happens ten times at most,
    - to an address that is not secure, the draft itself goes out first, if it can be sent at
      all: if its address and its headers can be used, and no proxy that cannot be used stands
      in between.
-/

namespace TelemetryRelay

namespace Http

/-! ## Section 1: Addresses that are not secure -/

/-- Unwrapping keeps the start of an address that is not wrapped at its start. -/
theorem unwrapped_http (rest : String) :
    ∃ chars, unwrapped ("http://" ++ rest) = "http://".toList ++ chars := by
  unfold unwrapped
  simp only [String.toList_append]
  generalize rest.toList = chars
  have hfront : ("http://".toList ++ chars).dropWhile (fun c => decide (c.toNat ≤ 32))
      = "http://".toList ++ chars := rfl
  rw [hfront, List.reverse_append, List.dropWhile_append]
  split
  · exact ⟨[], rfl⟩
  · rw [List.reverse_append, List.reverse_reverse, List.filter_append]
    exact ⟨_, rfl⟩

/-- The scheme of an address that starts with `http`. -/
theorem scheme_parse_http {rest : String} {url : Url}
    (h : Url.parse ("http://" ++ rest) = .ok url) : url.scheme = "http" := by
  obtain ⟨chars, hchars⟩ := unwrapped_http rest
  have hcut : cutScheme (unwrapped ("http://" ++ rest)) = some ("http", '/' :: '/' :: chars) := by
    rw [hchars]
    rfl
  unfold Url.parse at h
  rw [hcut] at h
  simp only at h
  split at h
  · cases h
  · cases h
    rfl

/-! ## Section 2: Drafts and their requests -/

/-- **Carries**: a request that carries a draft, as a client sends it. -/
structure Client.Carries (client : Client) (draft : Draft) (request : Request) : Prop where
  method : request.method = draft.method
  url : ∃ url, Url.parse draft.url = .ok url ∧ request.url = url.withoutLogin.requestText
  headers : request.headers = draft.headers ++ client.agentHeaders
  body : request.body = draft.body

/-- **Opens**: a request that opens a tunnel for others. -/
structure Client.Opens (client : Client) (request : Request) : Prop where
  method : request.method = "CONNECT"
  headers : request.headers = client.agentHeaders
  body : request.body = []

/-- Whether a header stays with a request wherever it is sent on to. -/
def isLasting (header : Header) : Bool := header.1 != refererName && !isAboutBody header

/-- **Stems from**: a request that carries a draft or was sent on since: it may only read by
    now, but still shows all headers that are not about a body. -/
structure Client.Stems (client : Client) (draft : Draft) (request : Request) : Prop where
  method : request.method = draft.method ∨ request.method = "GET"
  headers : request.headers.filter isLasting
    = (draft.headers ++ client.agentHeaders).filter isLasting
  body : request.body = draft.body ∨ request.body = []

/-- **Usable**: a draft whose address and headers can be used. -/
structure Draft.Usable (draft : Draft) (url : Url) : Prop where
  parsed : Url.parse draft.url = .ok url
  host : url.namesHost = true
  headers : ∀ header ∈ draft.headers, isHeaderValue header.2 = true
  web : url.isWeb = true
  target : isTarget url.withoutLogin.text = true

/-- **Can send**: a draft that can be used, with no proxy in between that cannot be. -/
structure Client.CanSend (client : Client) (draft : Draft) (url : Url) : Prop
    extends draft.Usable url where
  proxy : ∀ proxy, client.proxies.forUrl url.withoutLogin = some proxy → proxy.kind ≠ .other

/-- **Sends on**: a request is answered with another address to go on to. -/
def SendsOn (network : Network) (history : List Request) (request : Request) : Prop :=
  ∃ response received url next, network history request = .answered response ∧
    response.received? = some received ∧ request.url = url.requestText ∧
    received.next? url = some next

/-- **Trail**: the requests made for a draft that is sent on so many times at most. Each but
    the last opens a tunnel for what follows it, or is answered with where to go on. -/
inductive Client.Trail (client : Client) (network : Network) (draft : Draft) :
    Nat → List Request → List Request → Prop
  | none (hops : Nat) (history : List Request) : Trail client network draft hops history []
  | last (hops : Nat) (history : List Request) (request : Request) :
      client.Stems draft request ∨ client.Opens request →
      Trail client network draft hops history [request]
  | opens (hops : Nat) (history : List Request) (tunnel : Request) (rest : List Request) :
      client.Opens tunnel →
      Trail client network draft hops (history ++ [tunnel]) rest →
      Trail client network draft hops history (tunnel :: rest)
  | goesOn (hops : Nat) (history : List Request) (request : Request) (rest : List Request) :
      client.Stems draft request → SendsOn network history request →
      Trail client network draft hops (history ++ [request]) rest →
      Trail client network draft (hops + 1) history (request :: rest)

section

variable {client : Client} {network : Network} {history : List Request} {draft : Draft}
  {url : Url}

/-- The request that a draft is sent as. -/
def Client.requestFor (client : Client) (draft : Draft) (url : Url) : Request :=
  ⟨draft.method, url.requestText, draft.headers ++ client.agentHeaders, draft.body,
    client.proxies.forUrl url⟩

theorem carries_requestFor (hparse : Url.parse draft.url = .ok url) :
    client.Carries draft (client.requestFor draft url.withoutLogin) :=
  ⟨rfl, ⟨url, hparse, rfl⟩, rfl, rfl⟩

/-- Whatever is on a trail opens a tunnel, or stems from the draft. -/
theorem Client.Trail.opens_or_stems {hops : Nat} {made : List Request}
    (h : client.Trail network draft hops history made) :
    ∀ request ∈ made, client.Opens request ∨ client.Stems draft request := by
  induction h with
  | none => nofun
  | last hops history request hlast => exact List.forall_mem_singleton.mpr hlast.symm
  | opens hops history tunnel rest hopens hrest ih =>
    exact List.forall_mem_cons.mpr ⟨.inl hopens, ih⟩
  | goesOn hops history request rest hstems hsends hrest ih =>
    exact List.forall_mem_cons.mpr ⟨.inr hstems, ih⟩

/-- **Sent**: the ways a draft goes out. -/
inductive Client.Sent (client : Client) (network : Network) (history : List Request)
    (url : Url) (draft : Draft) : Exchange → Prop
  /-- A proxy that cannot be used stands in between. -/
  | barred (proxy : Proxy) (error : TransportError) :
      client.proxies.forUrl url = some proxy → proxy.kind = .other →
      Sent client network history url draft ⟨[], .failed error⟩
  /-- Its request is made. -/
  | straight :
      (∀ proxy, client.proxies.forUrl url = some proxy → proxy.kind ≠ .other) →
      Sent client network history url draft
        ⟨[client.requestFor draft url],
          fateOf url.text (network history (client.requestFor draft url))⟩
  /-- There would have to be a tunnel first, which is not opened. -/
  | shut (tunnel : Request) (fate : Fate) :
      url.isSecure = true → client.Opens tunnel → (∀ response, fate ≠ .answered response) →
      Sent client network history url draft ⟨[tunnel], fate⟩
  /-- A tunnel is opened first. -/
  | through (tunnel : Request) :
      url.isSecure = true → client.Opens tunnel →
      Sent client network history url draft
        ⟨[tunnel, client.requestFor draft url],
          fateOf url.text (network (history ++ [tunnel]) (client.requestFor draft url))⟩

/-- **Sent**: every draft goes out in one of these ways. -/
theorem sent_send (client : Client) (network : Network) (history : List Request) (url : Url)
    (draft : Draft) :
    client.Sent network history url draft (client.send network history url draft) := by
  have hstraight : (∀ proxy, client.proxies.forUrl url = some proxy → proxy.kind ≠ .other) →
      client.Sent network history url draft _ := .straight
  unfold Client.send
  unfold Client.requestFor at hstraight
  cases hvia : client.proxies.forUrl url with
  | none =>
    rw [hvia] at hstraight
    exact hstraight nofun
  | some proxy =>
    rw [hvia] at hstraight
    by_cases hother : proxy.kind = .other
    · simp only [if_pos hother]
      exact .barred proxy _ hvia hother
    simp only [if_neg hother]
    cases hsecure : url.isSecure with
    | false =>
      refine hstraight fun used hsome => ?_
      cases hsome
      exact hother
    | true =>
      let tunnel : Request := ⟨"CONNECT", url.endpoint, client.agentHeaders, [], some proxy⟩
      have hopens : client.Opens tunnel := ⟨rfl, rfl, rfl⟩
      have hthrough : client.Sent network history url draft _ := .through tunnel hsecure hopens
      unfold Client.requestFor at hthrough
      rw [hvia] at hthrough
      simp only [Bool.not_true, Bool.false_eq_true, if_false]
      split
      · split
        · exact hthrough
        · exact .shut tunnel _ hsecure hopens nofun
      · next hreply =>
        refine .shut tunnel _ hsecure hopens fun response => ?_
        cases hcase : network history tunnel with
        | answered response => exact absurd hcase (hreply response)
        | lost => nofun
        | silent => nofun
        | cancelling => nofun

/-- What goes to an address that is not secure is one request, unless a proxy that cannot
    be used stands in between. -/
theorem made_send_plain (client : Client) (network : Network) (history : List Request)
    (draft : Draft) (hplain : url.isSecure = false) :
    ((∀ proxy, client.proxies.forUrl url = some proxy → proxy.kind ≠ .other) ∧
      (client.send network history url draft).made = [client.requestFor draft url]) ∨
    ((∃ proxy, client.proxies.forUrl url = some proxy ∧ proxy.kind = .other) ∧
      (client.send network history url draft).made = [] ∧
      ∃ error, (client.send network history url draft).fate = .failed error) := by
  have hsent := sent_send client network history url draft
  generalize client.send network history url draft = sent at hsent ⊢
  cases hsent with
  | barred proxy error hvia hother => exact .inr ⟨⟨proxy, hvia, hother⟩, rfl, error, rfl⟩
  | straight hproxy => exact .inl ⟨hproxy, rfl⟩
  | shut tunnel fate hsecure => exact nomatch hplain.symm.trans hsecure
  | through tunnel hsecure => exact nomatch hplain.symm.trans hsecure

/-- Without a proxy in between, there is one request. -/
theorem send_direct (client : Client) (network : Network) (history : List Request)
    (draft : Draft) (hdirect : client.proxies.forUrl url = none) :
    client.send network history url draft
      = ⟨[client.requestFor draft url],
          fateOf url.text (network history (client.requestFor draft url))⟩ := by
  unfold Client.send Client.requestFor
  simp only [hdirect]

/-! ## Section 4: Being sent on -/

/-- **Stems from**: a draft that another became when it was sent on. -/
structure Draft.Stems (draft later : Draft) : Prop where
  method : later.method = draft.method ∨ later.method = "GET"
  headers : later.headers.filter isLasting = draft.headers.filter isLasting
  body : later.body = draft.body ∨ later.body = []

theorem Draft.Stems.refl (draft : Draft) : draft.Stems draft := ⟨.inl rfl, rfl, .inl rfl⟩

/-- Sending a draft on leaves what is not about its body. -/
theorem filter_headers_sentOn (draft : Draft) (status : Nat) (url next : Url) :
    (draft.sentOn status url next).headers.filter isLasting = draft.headers.filter isLasting := by
  have hreferer : (refererHeaders url next).filter isLasting = [] := by
    unfold refererHeaders
    split
    · rfl
    · rfl
  simp only [Draft.sentOn, List.filter_append, hreferer, List.append_nil, List.filter_filter]
  apply List.filter_congr
  intro header _
  -- what lasts is neither about the body nor about where the request comes from
  unfold isLasting
  cases isAboutBody header <;> simp

theorem Draft.Stems.sentOn {later : Draft} (h : draft.Stems later) (status : Nat)
    (url next : Url) : draft.Stems (later.sentOn status url next) := by
  refine ⟨?_, (filter_headers_sentOn later status url next).trans h.headers, ?_⟩
  · simp only [Draft.sentOn]
    split
    · exact .inr rfl
    · exact h.method
  · simp only [Draft.sentOn]
    split
    · exact .inr rfl
    · exact h.body

theorem Draft.Stems.requestFor {later : Draft} (h : draft.Stems later) (url : Url) :
    client.Stems draft (client.requestFor later url) := by
  refine ⟨h.method, ?_, h.body⟩
  simp only [Client.requestFor, List.filter_append, h.headers]

/-- An answer that sends on is one to the request that was made. -/
theorem sendsOn_of_redirect? {response : Response} {next : Url} (draft : Draft)
    (h : (fateOf url.text (network history (client.requestFor draft url))).redirect? url
      = some (response, next)) :
    SendsOn network history (client.requestFor draft url) := by
  cases hreply : network history (client.requestFor draft url) with
  | answered raw =>
    rw [hreply] at h
    cases hreceived : raw.received? with
    | none => simp [fateOf, hreceived, Fate.redirect?] at h
    | some received =>
      simp only [fateOf, hreceived, Fate.redirect?, Option.map_eq_some_iff] at h
      obtain ⟨target, hnext, -⟩ := h
      exact ⟨raw, received, url, target, hreply, hreceived, rfl, hnext⟩
  | lost => simp [hreply, fateOf, Fate.redirect?] at h
  | silent => simp [hreply, fateOf, Fate.redirect?] at h
  | cancelling => simp [hreply, fateOf, Fate.redirect?] at h

/-- What is sent on was answered, in a tunnel or straight. -/
theorem Client.Sent.of_redirect {sent : Exchange} {response : Response} {next : Url}
    (h : client.Sent network history url draft sent)
    (hnext : sent.fate.redirect? url = some (response, next)) :
    (sent.made = [client.requestFor draft url] ∧
      SendsOn network history (client.requestFor draft url)) ∨
    ∃ tunnel, client.Opens tunnel ∧ sent.made = [tunnel, client.requestFor draft url] ∧
      SendsOn network (history ++ [tunnel]) (client.requestFor draft url) := by
  cases h with
  | barred => simp [Fate.redirect?] at hnext
  | straight => exact .inl ⟨rfl, sendsOn_of_redirect? draft hnext⟩
  | shut tunnel fate hsecure hopens hfate =>
    cases fate with
    | answered response => exact absurd rfl (hfate response)
    | failed | silent | cancelling => simp [Fate.redirect?] at hnext
  | through tunnel hsecure hopens =>
    exact .inr ⟨tunnel, hopens, rfl, sendsOn_of_redirect? draft hnext⟩

/-- Where no answer sends on, what is sent stays. -/
theorem Client.Sent.stays {sent : Exchange} (h : client.Sent network history url draft sent)
    (hstays : ∀ history request, ¬ SendsOn network history request) :
    sent.fate.redirect? url = none := by
  rw [Option.eq_none_iff_forall_ne_some]
  rintro ⟨response, next⟩ hnext
  rcases h.of_redirect hnext with ⟨-, hsends⟩ | ⟨tunnel, -, -, hsends⟩
  · exact hstays _ _ hsends
  · exact hstays _ _ hsends

/-- Sending a draft once asks for its request, and for what opens a tunnel for it. -/
theorem Client.Sent.opens_or_eq {sent : Exchange}
    (h : client.Sent network history url draft sent) :
    ∀ request ∈ sent.made, client.Opens request ∨ request = client.requestFor draft url := by
  cases h with
  | barred => nofun
  | straight => exact List.forall_mem_singleton.mpr (.inr rfl)
  | shut tunnel fate hsecure hopens => exact List.forall_mem_singleton.mpr (.inl hopens)
  | through tunnel hsecure hopens =>
    exact List.forall_mem_cons.mpr ⟨.inl hopens, List.forall_mem_singleton.mpr (.inr rfl)⟩

/-- What is made for a draft that goes out once is a trail. -/
theorem Client.Sent.trail {later : Draft} {sent : Exchange}
    (h : client.Sent network history url later sent) (hstems : draft.Stems later) (hops : Nat) :
    client.Trail network draft hops history sent.made := by
  cases h with
  | barred => exact .none _ _
  | straight => exact .last _ _ _ (.inl (hstems.requestFor url))
  | shut tunnel fate hsecure hopens => exact .last _ _ _ (.inr hopens)
  | through tunnel hsecure hopens =>
    exact .opens _ _ _ _ hopens (.last _ _ _ (.inl (hstems.requestFor url)))

/-- What is made for a draft that goes out and is sent on is a trail, if what follows is one. -/
theorem Client.Sent.trail_append {later : Draft} {sent : Exchange} {response : Response}
    {next : Url} {hops : Nat} {rest : List Request}
    (h : client.Sent network history url later sent) (hstems : draft.Stems later)
    (hnext : sent.fate.redirect? url = some (response, next))
    (hrest : client.Trail network draft hops (history ++ sent.made) rest) :
    client.Trail network draft (hops + 1) history (sent.made ++ rest) := by
  rcases h.of_redirect hnext with ⟨hmade, hsends⟩ | ⟨tunnel, hopens, hmade, hsends⟩
  · rw [hmade] at hrest ⊢
    exact .goesOn _ _ _ _ (hstems.requestFor url) hsends hrest
  · rw [hmade] at hrest ⊢
    refine .opens _ _ _ _ hopens (.goesOn _ _ _ _ (hstems.requestFor url) hsends ?_)
    rw [List.append_assoc]
    exact hrest

/-- **Trail**: following a draft leaves a trail. -/
theorem trail_follow (client : Client) (network : Network) {draft : Draft} (hops : Nat) :
    ∀ (history : List Request) (url : Url) {later : Draft}, draft.Stems later →
      client.Trail network draft hops history
        (client.follow network hops history url later).made := by
  induction hops with
  | zero =>
    intro history url later hstems
    have hsent := (sent_send client network history url later).trail hstems 0
    unfold Client.follow
    simp only
    split
    · exact hsent
    · exact hsent
  | succ hops ih =>
    intro history url later hstems
    have hsent := sent_send client network history url later
    unfold Client.follow
    simp only
    split
    · exact hsent.trail hstems _
    · next response next hnext =>
      split
      · exact hsent.trail_append hstems hnext (ih _ _ (hstems.sentOn response.status url next))
      · exact hsent.trail hstems _

/-- What is not sent on stays as it was sent. -/
theorem follow_of_stays {hops : Nat}
    (h : (client.send network history url draft).fate.redirect? url = none) :
    client.follow network hops history url draft = client.send network history url draft := by
  unfold Client.follow
  cases hops with
  | zero => simp only [h]
  | succ hops => simp only [h]

/-- Whatever comes after it, a draft is sent first. -/
theorem exists_made_follow (client : Client) (network : Network) (hops : Nat)
    (history : List Request) (url : Url) (draft : Draft) :
    ∃ rest, (client.follow network hops history url draft).made
      = (client.send network history url draft).made ++ rest := by
  cases hops with
  | zero =>
    refine ⟨[], ?_⟩
    unfold Client.follow
    simp only [List.append_nil]
    split <;> rfl
  | succ hops =>
    unfold Client.follow
    simp only
    split
    · exact ⟨[], (List.append_nil _).symm⟩
    · split
      · exact ⟨_, rfl⟩
      · exact ⟨[], (List.append_nil _).symm⟩

/-! ## Section 5: Exchanges -/

/-- **Exchanged**: the ways an exchange can go. -/
inductive Client.Exchanged (client : Client) (network : Network) (history : List Request)
    (draft : Draft) : Exchange → Prop
  /-- The draft cannot be used. -/
  | unusable (error : TransportError) : (∀ url, ¬ draft.Usable url) →
      Exchanged client network history draft ⟨[], .failed error⟩
  /-- It is sent, and sent on. -/
  | followed (url : Url) : draft.Usable url →
      Exchanged client network history draft
        (client.follow network redirectLimit history url.withoutLogin draft)

/-- **Exchanged**: every exchange goes in one of these ways. -/
theorem exchanged_exchange (client : Client) (network : Network) (history : List Request)
    (draft : Draft) :
    client.Exchanged network history draft (exchange client network history draft) := by
  unfold exchange
  cases hparse : Url.parse draft.url with
  | error error =>
    refine .unusable _ fun url husable => ?_
    exact nomatch hparse.symm.trans husable.parsed
  | ok url =>
    -- a draft is sent to the address that was read
    have hread {other : Url} (husable : draft.Usable other) : other = url :=
      Except.ok.inj (husable.parsed.symm.trans hparse)
    simp only
    split
    · next hhost =>
      refine .unusable _ fun other husable => ?_
      obtain rfl := hread husable
      simp [husable.host] at hhost
    split
    · next hheaders =>
      refine .unusable _ fun other husable => ?_
      simp [List.all_eq_true.mpr husable.headers] at hheaders
    split
    · next hhost hheaders hweb =>
      rw [Bool.and_eq_true] at hweb
      refine .followed url ⟨hparse, by simpa using hhost, ?_, hweb.1, hweb.2⟩
      simpa using hheaders
    · next hweb =>
      refine .unusable _ fun other husable => ?_
      obtain rfl := hread husable
      refine hweb (Bool.and_eq_true_iff.mpr ⟨?_, husable.target⟩)
      exact husable.web

/-- **Trail**: the requests of an exchange are a trail. -/
theorem trail_exchange (client : Client) (network : Network) (history : List Request)
    (draft : Draft) :
    client.Trail network draft redirectLimit history
      (exchange client network history draft).made := by
  have hexchanged := exchanged_exchange client network history draft
  generalize exchange client network history draft = exchange at hexchanged ⊢
  cases hexchanged with
  | unusable => exact .none _ _
  | followed url => exact trail_follow client network redirectLimit _ _ (.refl draft)

/-- Whatever an exchange asks for opens a tunnel, or stems from its draft. -/
theorem opens_or_stems {request : Request}
    (h : request ∈ (exchange client network history draft).made) :
    client.Opens request ∨ client.Stems draft request :=
  (trail_exchange client network history draft).opens_or_stems request h

/-- Where no answer sends on, whatever an exchange asks for opens a tunnel or carries its
    draft. -/
theorem opens_or_carries (hstays : ∀ history request, ¬ SendsOn network history request)
    {request : Request} (h : request ∈ (exchange client network history draft).made) :
    client.Opens request ∨ client.Carries draft request := by
  have hexchanged := exchanged_exchange client network history draft
  generalize exchange client network history draft = exchange at hexchanged h
  cases hexchanged with
  | unusable => cases h
  | followed url husable =>
    have hsent := sent_send client network history url.withoutLogin draft
    rw [follow_of_stays (hsent.stays hstays)] at h
    rcases hsent.opens_or_eq request h with hopens | rfl
    · exact .inl hopens
    · exact .inr (carries_requestFor husable.parsed)

/-- A draft with an address that is not secure is the first request made for it, if any
    is. -/
theorem made_exchange_plain (client : Client) (network : Network) (history : List Request)
    {rest : String} (hurl : draft.url = "http://" ++ rest) :
    (∃ url request more, client.CanSend draft url ∧ client.Carries draft request ∧
      (exchange client network history draft).made = request :: more) ∨
    ((∀ url, ¬ client.CanSend draft url) ∧ (exchange client network history draft).made = [] ∧
      ∃ error, (exchange client network history draft).fate = .failed error) := by
  have hexchanged := exchanged_exchange client network history draft
  generalize exchange client network history draft = exchange at hexchanged ⊢
  cases hexchanged with
  | unusable error hunusable =>
    exact .inr ⟨fun url hsend => hunusable url hsend.toUsable, rfl, error, rfl⟩
  | followed url husable =>
    have hplain : url.withoutLogin.isSecure = false := by
      have hparse := husable.parsed
      rw [hurl] at hparse
      simp [Url.isSecure, Url.withoutLogin, scheme_parse_http hparse]
    rcases made_send_plain client network history draft hplain with
      ⟨hproxy, hmade⟩ | ⟨⟨proxy, hvia, hother⟩, hmade, error, hfate⟩
    · obtain ⟨more, hmore⟩ :=
        exists_made_follow client network redirectLimit history url.withoutLogin draft
      rw [hmade] at hmore
      exact .inl ⟨url, _, more, ⟨husable, hproxy⟩, carries_requestFor husable.parsed, hmore⟩
    · have hstays : (client.send network history url.withoutLogin draft).fate.redirect?
          url.withoutLogin = none := by
        rw [hfate]
        rfl
      rw [follow_of_stays hstays]
      refine .inr ⟨fun other hsend => ?_, hmade, error, hfate⟩
      obtain rfl : other = url := Except.ok.inj (hsend.parsed.symm.trans husable.parsed)
      exact hsend.proxy proxy hvia hother

/-- A draft that can be used is sent, and sent on. -/
theorem exchange_of_usable (h : draft.Usable url) :
    exchange client network history draft
      = client.follow network redirectLimit history url.withoutLogin draft := by
  have hexchanged := exchanged_exchange client network history draft
  generalize exchange client network history draft = exchange at hexchanged ⊢
  cases hexchanged with
  | unusable error hunusable => exact absurd h (hunusable url)
  | followed other husable =>
    obtain rfl : other = url := Except.ok.inj (husable.parsed.symm.trans h.parsed)
    rfl

/-- Where no proxy stands in between, what becomes of a draft that can be used is what
    becomes of its request, unless the answer sends it on. -/
theorem Draft.Usable.fate_direct (h : draft.Usable url)
    (hdirect : client.proxies.forUrl url.withoutLogin = none)
    (hstays : (fateOf url.withoutLogin.text
      (network history (client.requestFor draft url.withoutLogin))).redirect? url.withoutLogin
        = none) :
    (exchange client network history draft).fate
      = fateOf url.withoutLogin.text
          (network history (client.requestFor draft url.withoutLogin)) := by
  have hsend := send_direct client network history draft hdirect
  rw [exchange_of_usable h, follow_of_stays (hsend ▸ hstays), hsend]

end

end Http

end TelemetryRelay
