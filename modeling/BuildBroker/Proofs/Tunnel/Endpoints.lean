import BuildBroker.Proofs.Net.Ipv6Text
import BuildBroker.Proofs.Url.Parts
import BuildBroker.Tunnel.Open

/-!
# Where Tunnels Lead

The URL of an endpoint is taken apart three times: for the place to connect to, for the target of
the request, and for the header that names the host. Target and header agree with the URL, whatever
host it has; a path that is empty becomes the root, and a target that is too long is not asked for.
The place to connect to is the host as the URL shows it. That is the host itself for a name and for
an IPv4 address, but an IPv6 address keeps the brackets of the URL, and no connector that takes bare
addresses and names finds anybody there.

Main statements:
- `Headers.filter_replace`, `Headers.without_replace`: setting a header leaves the others alone.
- `requestTarget_of_proper`: the target of the request.
- `Forwarded.Directs`: what it is for a request to be directed at an endpoint.
- `connector_of_read`, `connector_bracketed`: whom a connector finds.
- `leads_to_its_endpoint`: where a tunnel leads to.
-/

namespace BuildBroker

open Http Executor

/-! ## §1 Setting a Header -/

namespace Http.Headers

variable (hs : Headers) (name : String) (value : Bytes)

theorem filter_without : (hs.without name).filter (·.name = name) = [] := by
  rw [without, List.filter_filter, List.filter_eq_nil_iff]
  intro h _
  simp

/-- A header that is set is there once. -/
theorem filter_replace : (hs.replace name value).filter (·.name = name) = [⟨name, value⟩] := by
  induction hs with
  | nil => simp [replace]
  | cons h rest ih =>
    rw [replace]
    split
    · simp [filter_without]
    · rename_i hname
      simpa [hname] using ih

/-- Setting a header leaves the others as they are. -/
theorem without_replace : (hs.replace name value).without name = hs.without name := by
  induction hs with
  | nil => simp [replace, without]
  | cons h rest ih =>
    rw [replace]
    split
    · rename_i hname
      simp [without, hname, List.filter_filter]
    · rename_i hname
      simpa [without, hname] using ih

end Http.Headers

namespace Tunnel

/-! ## §2 What Is Sent -/

theorem requestTarget_of_slash {u : Url} {cs : List Char} (h : u.target.toList = '/' :: cs) :
    requestTarget u = u.target := by
  simp only [requestTarget, h]

theorem requestTarget_of_other {u : Url} (h : ∀ cs, u.target.toList ≠ '/' :: cs) :
    requestTarget u = "/" ++ u.target := by
  unfold requestTarget
  split
  · rename_i cs hslash
    exact absurd hslash (h cs)
  · rfl

/-- A path that is empty is asked for as the root; any other target is that of the URL. -/
theorem requestTarget_of_proper {u : Url} (hproper : u.Proper) (ha : u.authority ≠ none) :
    requestTarget u = (if u.path.toText = "" then "/" else "") ++ u.target ∧
      (isSpecial u.scheme = true → u.path.toText ≠ "") := by
  obtain ⟨names, hpath, hspecial⟩ := hproper.path ha
  cases names with
  -- without a path the target has no leading slash of its own
  | nil =>
    have hempty : u.path.toText = "" := by rw [hpath]; rfl
    have hmark : ∀ cs, u.target.toList ≠ '/' :: cs := by
      intro cs
      rw [Url.target, hempty]
      cases u.query with
      | none => simp [Url.markedText]
      | some q => simp [Url.markedText]
    rw [if_pos hempty]
    exact ⟨requestTarget_of_other hmark, fun h => absurd rfl (hspecial h)⟩
  -- otherwise the path brings the slash
  | cons name names =>
    have htext : u.path.toText.toList = '/' :: (name.toList ++ Url.pathChars names) := by
      rw [hpath, Url.toList_segments]
      rfl
    have hsome : u.path.toText ≠ "" := by
      intro hempty
      rw [hempty] at htext
      cases htext
    have hslash : u.target.toList =
        '/' :: (name.toList ++ Url.pathChars names ++ (Url.markedText "?" u.query).toList) := by
      rw [Url.target, String.toList_append, htext]
      rfl
    rw [if_neg hsome, requestTarget_of_slash hslash]
    exact ⟨by simp, fun _ => hsome⟩

/-- The request is directed at an endpoint: it goes to the port and to the host of the URL, as the URL
shows it, asks for its path and query, names its host, and is the caller's otherwise. -/
structure Forwarded.Directs (u : Url) (h : Host) (r : Request) (x : Forwarded) : Prop where
  host : x.host = h.toText
  name : ∀ n, h = .domain n → x.host = n
  ipv4 : ∀ a, h = .ipv4 a → Net.Ip.ofChars? x.host.toList = some (.v4 a)
  /-- An IPv6 address stands in brackets: it can be read between them, but not with them. -/
  ipv6 : ∀ a, h = .ipv6 a → Net.Ip.ofChars? x.host.toList = none ∧
    ∃ text, x.host = "[" ++ text ++ "]" ∧ Net.Ip.ofChars? text.toList = some (.v6 a)
  port : x.port = u.effectivePort?.getD 80
  method : x.method = r.method
  body : x.body = r.body
  otherHeaders : x.headers.without "host" = r.headers.without "host"
  /-- The host is named as the URL shows it, with its port unless that is the default one. -/
  hostHeader : x.headers.filter (·.name = "host") = [⟨"host", Bytes.ofText (h.toText ++
    if u.effectivePort? = defaultPort? u.scheme then "" else ":" ++ toString x.port)⟩]
  target : x.target = (if u.path.toText = "" then "/" else "") ++ u.target
  /-- The URL of a special scheme always has a path. -/
  special : isSpecial u.scheme = true → u.path.toText ≠ ""

/-- The name of the host has the port behind it unless that is the default one. -/
theorem hostText_of_proper {u : Url} (hproper : u.Proper) {a : Authority}
    (ha : u.authority = some a) :
    hostText u = a.host.toText ++ if u.effectivePort? = defaultPort? u.scheme then ""
      else ":" ++ toString (u.effectivePort?.getD fallbackPort) := by
  have hport : u.port? = a.port := by rw [Url.port?, ha]; rfl
  rw [hostText, ha]
  simp only [Authority.portText, Url.effectivePort?, hport]
  cases hp : a.port with
  | none => simp
  | some p =>
    have hne := hproper.port p (hport.trans hp)
    simp [Option.orElse, Ne.symm hne]

theorem directs_ofRequest {u : Url} (hproper : u.Proper) {h : Host} (hhost : u.host? = some h)
    (r : Request) : (Forwarded.ofRequest u h r).Directs u h r := by
  obtain ⟨a, ha, hah⟩ : ∃ a, u.authority = some a ∧ a.host = h := by
    unfold Url.host? at hhost
    split at hhost
    · rename_i a ha
      split at hhost
      · cases hhost
      · exact ⟨a, ha, Option.some.inj hhost⟩
    · cases hhost
  -- a proper URL has a target that may be sent as it is
  obtain ⟨htarget, hspecial⟩ := requestTarget_of_proper hproper (by simp [ha])
  constructor
  case host => rfl
  case name => rintro n rfl; rfl
  case ipv4 =>
    rintro v4 rfl
    simp [Forwarded.ofRequest, Host.toText, Net.Ip.ofChars?, Net.Ipv4.ofChars?_toText]
  -- the brackets are what keeps the host from being read as an address
  case ipv6 =>
    rintro v6 rfl
    exact ⟨Net.Ip.ofChars?_bracketed _, _, rfl, Net.Ip.ofChars?_renderGroups v6⟩
  case port => rfl
  case method => rfl
  case body => rfl
  case otherHeaders => exact Headers.without_replace _ _ _
  case hostHeader =>
    rw [← hah]
    exact (Headers.filter_replace _ _ _).trans (by rw [hostText_of_proper hproper ha]; rfl)
  case target => exact htarget
  case special => exact hspecial

/-! ## §3 Whom Tunnels Reach -/

/-- Who listens, for a connector that takes bare addresses and looks every other host up as a
name. -/
def connector (address : Net.Ip → Nat → Bool) (name : String → Nat → Bool) (host : String)
    (port : Nat) : Bool :=
  match Net.Ip.ofChars? host.toList with
  | some ip => address ip port
  | none => name host port

section Connector

variable {address : Net.Ip → Nat → Bool} {name : String → Nat → Bool}

theorem connector_of_read {host : String} {ip : Net.Ip} (h : Net.Ip.ofChars? host.toList = some ip)
    (port : Nat) : connector address name host port = address ip port := by
  simp only [connector, h]

/-- What stands in brackets is looked up as a name. -/
theorem connector_bracketed (text : String) (port : Nat) :
    connector address name ("[" ++ text ++ "]") port = name ("[" ++ text ++ "]") port := by
  simp only [connector, Net.Ip.ofChars?_bracketed]

end Connector

theorem openTunnel_of_host {u : Url} {h : Host} (hhost : u.host? = some h) (r : Request)
    (listens : String → Nat → Bool) (send : Forwarded → Reply) :
    openTunnel listens send u r =
      if listens h.toText (Forwarded.ofRequest u h r).port = false then (none, .failed .unreachable)
      else if u.target.utf8ByteSize ≤ 65534 then
        (some (Forwarded.ofRequest u h r), .ofReply (send (Forwarded.ofRequest u h r)))
      else (none, .failed .targetTooLong) := by
  have hfits : fitsTarget u = decide (u.target.utf8ByteSize ≤ 65534) := rfl
  have hplace : (Forwarded.ofRequest u h r).host = h.toText := rfl
  rw [openTunnel, hhost]
  simp only [hfits, hplace, Bool.not_eq_true', decide_eq_false_iff_not]
  split
  · rfl
  · by_cases hsize : u.target.utf8ByteSize ≤ 65534
    · rw [if_pos hsize, if_neg (not_not.mpr hsize)]
    · rw [if_neg hsize, if_pos hsize]

/-- **Where tunnels lead.** For every URL that is read of a text and has a host, the caller's request
is directed at that host and that URL. It is sent as soon as somebody listens at the host as the URL
shows it, unless its target is longer than a target may be; then nothing is sent. A connector that
takes bare addresses and names is so given the IPv4 address itself. An IPv6 address it is given in
brackets: where no name has brackets it finds nobody, whoever listens at the address, and whom it
would find if the brackets were left out. -/
theorem leads_to_its_endpoint {raw : String} {u : Url} (hparse : Url.parse raw = .ok u) {h : Host}
    (hhost : u.host? = some h) (r : Request) :
    ∃ x : Forwarded, x.Directs u h r ∧
      (∀ (listens : String → Nat → Bool) (send : Forwarded → Reply),
        openTunnel listens send u r =
          if listens x.host x.port = false then (none, .failed .unreachable)
          else if u.target.utf8ByteSize ≤ 65534 then (some x, .ofReply (send x))
          else (none, .failed .targetTooLong)) ∧
      ∀ (address : Net.Ip → Nat → Bool) (name : String → Nat → Bool),
        (∀ n p, '[' ∈ n.toList → name n p = false) →
        (∀ a, h = .ipv4 a → connector address name x.host x.port = address (.v4 a) x.port) ∧
        ∀ a, h = .ipv6 a →
          (∀ send, openTunnel (connector address name) send u r = (none, .failed .unreachable)) ∧
          ∃ text, x.host = "[" ++ text ++ "]" ∧
            connector address name text x.port = address (.v6 a) x.port := by
  have hdirects := directs_ofRequest (Url.proper_of_parse hparse) hhost r
  refine ⟨Forwarded.ofRequest u h r, hdirects, openTunnel_of_host hhost r, ?_⟩
  intro address name hname
  constructor
  · intro a ha
    exact connector_of_read (hdirects.ipv4 a ha) _
  · intro a ha
    obtain ⟨-, text, htext, hread⟩ := hdirects.ipv6 a ha
    refine ⟨fun send => ?_, text, htext, connector_of_read hread _⟩
    -- a host in brackets is taken for a name, and no name is written so
    have hnobody : connector address name h.toText (Forwarded.ofRequest u h r).port = false := by
      rw [← hdirects.host, htext, connector_bracketed]
      exact hname _ _ (by simp)
    rw [openTunnel_of_host hhost, if_pos hnobody]

/-- The request of a caller who asks for a session. -/
def sessionRequest : Request :=
  ⟨"GET", ⟨['/'], none⟩, [⟨"host", Bytes.ofText "broker"⟩, ⟨"upgrade", Bytes.ofText "tcp"⟩],
    ⟨[], false⟩⟩

/-- Somebody listens at two addresses. -/
def twoListeners (ip : Net.Ip) (port : Nat) : Bool :=
  port = 7777 && (ip = .v4 ⟨0x7f000001⟩ || ip = .v6 ⟨1⟩)

/-- At both addresses somebody listens, but only one of them can be reached. -/
theorem leads_to_its_endpoint_loopback :
    (∃ u x, Url.parse "http://127.0.0.1:7777/hijack?tty=1" = .ok u ∧
      x.Directs u (.ipv4 ⟨0x7f000001⟩) sessionRequest ∧
      openTunnel (connector twoListeners fun _ _ => false) (fun _ => .silent) u sessionRequest =
        (some x, .silent)) ∧
    ∃ (u : Url) (x : Forwarded), Url.parse "http://[::1]:7777/hijack" = .ok u ∧
      x.Directs u (.ipv6 ⟨1⟩) sessionRequest ∧ twoListeners (.v6 ⟨1⟩) x.port = true ∧
      openTunnel (connector twoListeners fun _ _ => false) (fun _ => .silent) u sessionRequest =
        (none, .failed .unreachable) := by
  have hunnamed : ∀ (n : String) (p : Nat), '[' ∈ n.toList →
      (fun (_ : String) (_ : Nat) => false) n p = false := fun _ _ _ => rfl
  constructor
  -- an IPv4 endpoint is found where it listens
  · have hparse : Url.parse "http://127.0.0.1:7777/hijack?tty=1" = .ok ⟨"http",
        some ⟨"", "", .ipv4 ⟨0x7f000001⟩, some 7777⟩, .segments ["hijack"], some "tty=1",
        none⟩ := by rfl
    obtain ⟨x, hx, hopen, hreach⟩ := leads_to_its_endpoint hparse rfl sessionRequest
    refine ⟨_, x, hparse, hx, ?_⟩
    have hfound := (hreach twoListeners _ hunnamed).1 _ rfl
    rw [hopen, hfound, hx.port, if_neg (by decide), if_pos (by decide +kernel)]
    rfl
  -- an IPv6 endpoint is not, although it listens on the port
  · have hparse : Url.parse "http://[::1]:7777/hijack" = .ok ⟨"http",
        some ⟨"", "", .ipv6 ⟨1⟩, some 7777⟩, .segments ["hijack"], none, none⟩ := by rfl
    obtain ⟨x, hx, -, hreach⟩ := leads_to_its_endpoint hparse rfl sessionRequest
    refine ⟨_, x, hparse, hx, ?_, ((hreach twoListeners _ hunnamed).2 _ rfl).1 _⟩
    rw [hx.port]
    decide

end Tunnel

end BuildBroker
