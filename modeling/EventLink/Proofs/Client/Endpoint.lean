import EventLink.Client.Settings
import Mathlib.Data.List.TakeWhile
/-!
Endpoints that lead to themselves.

Whatever an endpoint is made from, it is a url of its own: it begins with one of the two schemes, has
no blank at either end, and given as a url it is the endpoint again.  An endpoint that follows from an
origin that was read is read as the same origin.
-/
namespace EventLink

namespace Text

/-- No blank stands at either end. -/
structure IsTrimmed (cs : List Char) : Prop where
  front : ∀ c ∈ cs.head?, isBlank c = false
  back : ∀ c ∈ cs.getLast?, isBlank c = false

/-- All characters are blanks. -/
def IsBlankText (s : String) : Prop :=
  ∀ c ∈ s.toList, isBlank c = true

theorem head?_dropWhile_isBlank (cs : List Char) :
    ∀ c ∈ (cs.dropWhile isBlank).head?, isBlank c = false := by
  intro c hc
  have := List.head?_dropWhile_not isBlank cs
  rw [Option.mem_def.1 hc] at this
  exact this

theorem dropWhile_isBlank_eq_self {cs : List Char} (front : ∀ c ∈ cs.head?, isBlank c = false) :
    cs.dropWhile isBlank = cs := by
  cases cs with
  | nil => rfl
  | cons c rest => rw [List.dropWhile_cons, front c rfl]; rfl

/-- What is left of a text from some place on ends as the text does. -/
theorem getLast?_of_suffix {cs ds : List Char} (suffix : cs <:+ ds) :
    ∀ c ∈ cs.getLast?, c ∈ ds.getLast? := by
  intro c hc
  obtain ⟨front, rfl⟩ := suffix
  rw [List.getLast?_append, Option.mem_def.1 hc]
  rfl

theorem isTrimmed_trimList (cs : List Char) : IsTrimmed (trimList cs) where
  front := by
    intro c hc
    rw [trimList, List.head?_reverse] at hc
    have suffix := List.dropWhile_suffix (l := (cs.dropWhile isBlank).reverse) isBlank
    have first := getLast?_of_suffix suffix c hc
    rw [List.getLast?_reverse] at first
    exact head?_dropWhile_isBlank cs c first
  back := by
    intro c hc
    rw [trimList, List.getLast?_reverse] at hc
    exact head?_dropWhile_isBlank _ c hc

theorem IsTrimmed.trimList_eq {cs : List Char} (h : IsTrimmed cs) : trimList cs = cs := by
  have back : ∀ c ∈ cs.reverse.head?, isBlank c = false := by
    rw [List.head?_reverse]
    exact h.back
  rw [trimList, dropWhile_isBlank_eq_self h.front, dropWhile_isBlank_eq_self back,
    List.reverse_reverse]

theorem trim_of_isTrimmed {s : String} (h : IsTrimmed s.toList) : trim s = s := by
  rw [trim, h.trimList_eq, String.ofList_toList]

theorem isTrimmed_trim (s : String) : IsTrimmed (trim s).toList := by
  rw [trim, String.toList_ofList]
  exact isTrimmed_trimList s.toList

theorem trim_of_isBlankText {s : String} (h : IsBlankText s) : trim s = "" := by
  have nothing : s.toList.dropWhile isBlank = [] := List.dropWhile_eq_nil_iff.2 h
  rw [trim, trimList, nothing]
  rfl

end Text

/-- A text is cut at its first colon with two slashes after it. -/
theorem splitScheme_append {scheme : List Char} (noColon : ∀ c ∈ scheme, c ≠ ':')
    (rest : List Char) : splitScheme (scheme ++ ':' :: '/' :: '/' :: rest) = some (scheme, rest) := by
  induction scheme with
  | nil => rfl
  | cons c scheme ih =>
    obtain ⟨other, others⟩ := List.forall_mem_cons.1 noColon
    have step (tail : List Char) : splitScheme (c :: tail) =
        (splitScheme tail).map fun (parts : List Char × List Char) =>
          (c :: parts.1, parts.2) := by
      rw [splitScheme]
      rintro _ rfl
      exact absurd rfl other
    rw [List.cons_append, step, ih others]
    rfl

/-- A host that can be read off an origin: it is there, and nothing in it ends it. -/
structure IsHost (host : String) : Prop where
  nonempty : host.toList ≠ []
  endless : ∀ c ∈ host.toList, endsHost c = false

theorem isHost_of_parse {text : String} {origin : Origin} (h : Origin.parse text = .ok origin) :
    IsHost origin.host := by
  unfold Origin.parse at h
  split at h
  · cases h
  · split at h
    · cases h
    · dsimp only at h
      split at h
      · cases h
      · next found =>
        cases h
        constructor
        · rw [String.toList_ofList]
          exact fun none => found (List.isEmpty_iff.2 none)
        · intro c hc
          rw [String.toList_ofList] at hc
          simpa using List.mem_takeWhile_imp hc

def Origin.scheme (origin : Origin) : List Char :=
  if origin.secure then ['w', 's', 's'] else ['w', 's']

theorem toList_endpoint (origin : Origin) :
    origin.endpoint.toList =
      origin.scheme ++ ':' :: '/' :: '/' :: (origin.host.toList ++ endpointPath.toList) := by
  cases hsecure : origin.secure <;>
    simp [Origin.endpoint, Origin.scheme, hsecure, String.toList_append]

/-- An origin whose host could be read off is read off its endpoint. -/
theorem parse_endpoint {origin : Origin} (h : IsHost origin.host) :
    Origin.parse origin.endpoint = .ok origin := by
  have noColon : ∀ c ∈ origin.scheme, c ≠ ':' := by
    rw [Origin.scheme]
    split <;> simp
  have secure : secureScheme? origin.scheme = some origin.secure := by
    rw [Origin.scheme]
    cases origin.secure <;> rfl
  -- The path that follows the host ends it.
  have host : (origin.host.toList ++ endpointPath.toList).takeWhile (fun c => !endsHost c) =
      origin.host.toList := by
    rw [List.takeWhile_append_of_pos fun c hc => by rw [h.endless c hc]; rfl]
    exact List.append_nil _
  have present : origin.host.toList.isEmpty = false := by
    rw [List.isEmpty_eq_false_iff]
    exact h.nonempty
  rw [Origin.parse, toList_endpoint, splitScheme_append noColon]
  simp only [secure, host, present, String.ofList_toList]
  rfl

/-- A text begins like the url of an endpoint, in whatever case. -/
def HasEndpointScheme (u : String) : Prop :=
  "ws://".toList <+: u.toList.map Char.toLower ∨ "wss://".toList <+: u.toList.map Char.toLower

theorem startsLikeEndpoint_iff {u : String} :
    startsLikeEndpoint u.toList = true ↔ HasEndpointScheme u := by
  rw [startsLikeEndpoint, Bool.or_eq_true, List.isPrefixOf_iff_prefix, List.isPrefixOf_iff_prefix]
  rfl

/-- The endpoint that follows from an origin begins like one, whatever the host. -/
theorem hasEndpointScheme_endpoint (origin : Origin) : HasEndpointScheme origin.endpoint := by
  rw [HasEndpointScheme, toList_endpoint, Origin.scheme]
  cases origin.secure with
  | false => exact .inl ⟨_, rfl⟩
  | true => exact .inr ⟨_, rfl⟩

/-- The endpoint that follows from an origin has blanks inside at most, whatever the host. -/
theorem isTrimmed_endpoint (origin : Origin) : Text.IsTrimmed origin.endpoint.toList := by
  rw [toList_endpoint]
  constructor
  · intro c hc
    have first : c = 'w' := by
      rw [Origin.scheme] at hc
      cases hsecure : origin.secure <;> simp [hsecure] at hc <;> exact hc.symm
    subst first
    decide
  · intro c hc
    have last : c = 's' := by
      rw [← List.cons_append, ← List.cons_append, ← List.cons_append, ← List.append_assoc,
        List.getLast?_append] at hc
      exact (Option.some.inj hc).symm
    subst last
    decide

theorem resolve_of_blank {url : Option String} (blank : ∀ u ∈ url, Text.IsBlankText u)
    (origin : Origin) : resolve url (some origin) = .ok origin.endpoint := by
  cases url with
  | none => rfl
  | some u =>
    unfold resolve
    rw [Option.map_some, Text.trim_of_isBlankText (blank u rfl)]
    rfl

theorem resolve_of_isTrimmed {u : String} (scheme : HasEndpointScheme u)
    (trimmed : Text.IsTrimmed u.toList) (origin : Option Origin) : resolve (some u) origin = .ok u := by
  have present : (!u.isEmpty) = true := by
    rw [Bool.not_eq_true', Bool.eq_false_iff, ne_eq, String.isEmpty_iff]
    rintro rfl
    revert scheme
    rw [HasEndpointScheme]
    decide
  unfold resolve
  rw [Option.map_some, Text.trim_of_isTrimmed trimmed, Option.filter_some, if_pos present]
  exact if_pos (startsLikeEndpoint_iff.2 scheme)

theorem of_resolve_eq_ok {url : Option String} {origin : Option Origin} {u : String}
    (h : resolve url origin = .ok u) : HasEndpointScheme u ∧ Text.IsTrimmed u.toList := by
  unfold resolve at h
  split at h
  · next given hgiven =>
    split at h
    · next starts =>
      cases h
      obtain ⟨written, _, rfl⟩ := Option.map_eq_some_iff.1 (Option.filter_eq_some_iff.1 hgiven).1
      exact ⟨startsLikeEndpoint_iff.1 starts, Text.isTrimmed_trim written⟩
    · cases h
  · next o _ =>
    cases h
    exact ⟨hasEndpointScheme_endpoint o, isTrimmed_endpoint o⟩
  · cases h

/-- An empty url and none lead to the same endpoint. -/
theorem endpoint_ofUrl (url : String) (origin : Origin) :
    { ClientSettings.ofUrl url with origin := some origin }.endpoint =
      resolve (some url) (some origin) := by
  unfold ClientSettings.endpoint ClientSettings.ofUrl
  split
  · next empty =>
    have blank : ∀ u ∈ some url, Text.IsBlankText u := by
      rintro _ ⟨⟩
      rw [String.isEmpty_iff.1 empty]
      exact fun c hc => absurd hc List.not_mem_nil
    rw [resolve_of_blank blank, resolve_of_blank fun u none => absurd none (Option.not_mem_none u)]
  · rfl

/-- Without a url that says more than blanks, an origin that was read leads to an endpoint that reads
as the same origin.  Whatever leads to an endpoint, also a host that could be no host: the endpoint
begins with one of the two schemes, has no blank at either end, and leads to itself beside any origin.
A client that is made with a url, also an empty one, and an origin is led where the two lead. -/
theorem resolve_consistent :
    (∀ text origin, Origin.parse text = .ok origin →
      ∀ url : Option String, (∀ u ∈ url, Text.IsBlankText u) →
        ∃ u, resolve url (some origin) = .ok u ∧ Origin.parse u = .ok origin) ∧
    (∀ url origin u, resolve url origin = .ok u →
      HasEndpointScheme u ∧ Text.IsTrimmed u.toList ∧ ∀ other, resolve (some u) other = .ok u) ∧
    ∀ url origin, { ClientSettings.ofUrl url with origin := some origin }.endpoint =
      resolve (some url) (some origin) := by
  refine ⟨?_, ?_, endpoint_ofUrl⟩
  · intro text origin parsed url blank
    exact ⟨origin.endpoint, resolve_of_blank blank origin, parse_endpoint (isHost_of_parse parsed)⟩
  · intro url origin u resolved
    obtain ⟨scheme, trimmed⟩ := of_resolve_eq_ok resolved
    exact ⟨scheme, trimmed, resolve_of_isTrimmed scheme trimmed⟩

/-- An origin with colons in its host and a second scheme after it, a url of two odd blanks, a url with
blanks around it and a scheme in mixed case, and a host that is not one. -/
theorem resolve_consistent_on_odd_text :
    (∃ u, resolve (some "\u00a0\u3000") (some ⟨true, "a:b:"⟩) = .ok u ∧
      Origin.parse u = .ok ⟨true, "a:b:"⟩) ∧
    (∀ other, resolve (some "wSs://x y") other = .ok "wSs://x y") ∧
    (∀ other, resolve (some "ws:// /#/ws/events") other = .ok "ws:// /#/ws/events") ∧
    { ClientSettings.ofUrl "" with origin := some ⟨true, "a:b:"⟩ }.endpoint =
      resolve (some "") (some ⟨true, "a:b:"⟩) := by
  have blank : ∀ u ∈ some "\u00a0\u3000", Text.IsBlankText u := by
    rintro _ ⟨⟩
    exact List.all_eq_true.1 (by decide)
  exact ⟨resolve_consistent.1 "HTTPS://a:b://c?x=1#://" ⟨true, "a:b:"⟩ (by rfl) _ blank,
    (resolve_consistent.2.1 (some "\t wSs://x y\u00a0") none "wSs://x y" (by rfl)).2.2,
    (resolve_consistent.2.1 none (some ⟨false, " /#"⟩) "ws:// /#/ws/events" (by rfl)).2.2,
    resolve_consistent.2.2 "" ⟨true, "a:b:"⟩⟩

end EventLink
