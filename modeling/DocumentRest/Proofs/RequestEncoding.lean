import DocumentRest.Endpoint
import DocumentRest.Proofs.PercentEncoding
import DocumentRest.Proofs.Utf8Reading

namespace DocumentRest

def splitSegment (s : List Char) : List Char × List Char :=
  (s.takeWhile (· ≠ '/'), s.dropWhile (· ≠ '/'))

theorem splitSegment_append {s r : List Char} (hs : '/' ∉ s) (hr : ∀ c ∈ r.head?, c = '/') :
    splitSegment (s ++ r) = (s, r) := by
  have hpos : ∀ c ∈ s, decide (c ≠ '/') = true := by
    intro c hc
    rw [decide_eq_true_eq]
    rintro rfl
    exact hs hc
  rw [splitSegment, List.takeWhile_append_of_pos hpos, List.dropWhile_append_of_pos hpos]
  cases r with
  | nil => rw [List.takeWhile_nil, List.dropWhile_nil, List.append_nil]
  | cons c r =>
    obtain rfl : c = '/' := hr c rfl
    simp

def behindSlash? : List Char → Option String
  | [] => none
  | _ :: s => some (.ofList s)

namespace Endpoint

inductive Kind
  | connect
  | query
  | document
  | classInfo
  | createClass
  | cluster
  | command
  | server
  | disconnect
  deriving DecidableEq, Repr

def kind : Endpoint → Kind
  | connect => .connect
  | query .. => .query
  | document .. => .document
  | classInfo _ => .classInfo
  | createClass _ => .createClass
  | cluster _ => .cluster
  | command _ => .command
  | server => .server
  | disconnect => .disconnect

namespace Kind

def all : List Kind :=
  [connect, query, document, classInfo, createClass, cluster, command, server, disconnect]

def method : Kind → Method
  | createClass | command => .post
  | _ => .get

def word : Kind → String
  | connect => "connect"
  | query => "query"
  | document => "document"
  | classInfo | createClass => "class"
  | cluster => "cluster"
  | command => "command"
  | server => "server"
  | disconnect => "disconnect"

def lead (database : String) : Kind → String
  | connect => "/" ++ database
  | query | command => "/" ++ database ++ "/sql/"
  | server | disconnect => ""
  | _ => "/" ++ database ++ "/"

def ofWord? (m : Method) (word : List Char) : Option Kind :=
  all.find? fun k => k.method = m && k.word.toList = word

theorem ofWord?_word (k : Kind) : ofWord? k.method k.word.toList = some k := by
  cases k <;> decide

theorem slash_not_mem_word (k : Kind) : '/' ∉ k.word.toList := by
  cases k <;> decide

end Kind

def suffix : Option String → Option String → String
  | none, _ => ""
  | some n, none => "/" ++ n
  | some n, some plan => "/" ++ n ++ "/" ++ plan

def argument : Endpoint → String
  | query sql limit fetchPlan => Text.percentEncode sql ++ suffix limit fetchPlan
  | document rid fetchPlan => rid ++ suffix fetchPlan none
  | classInfo name | createClass name | cluster name => name
  | command sql => Text.percentEncode sql ++ "/"
  | connect | server | disconnect => ""

def effectiveLimit (limit fetchPlan : Option String) : Option String :=
  (nonEmpty limit).or ((nonEmpty fetchPlan).map fun _ => defaultLimit)

theorem normalize_query (sql : String) (limit fetchPlan : Option String) :
    (query sql limit fetchPlan).normalize =
      query sql (effectiveLimit limit fetchPlan) (nonEmpty fetchPlan) := by
  cases hn : nonEmpty limit <;> cases hp : nonEmpty fetchPlan <;>
    simp [normalize, effectiveLimit, hn, hp]

theorem querySuffix_eq (limit fetchPlan : Option String) :
    querySuffix limit fetchPlan = suffix (effectiveLimit limit fetchPlan) (nonEmpty fetchPlan) := by
  unfold querySuffix effectiveLimit
  cases nonEmpty limit <;> cases nonEmpty fetchPlan <;> rfl

theorem method_eq (e : Endpoint) : e.method = e.kind.method := by
  cases e <;> rfl

theorem kind_normalize (e : Endpoint) : e.normalize.kind = e.kind := by
  cases e with
  | query sql limit fetchPlan =>
    rw [normalize_query]
    rfl
  | _ => rfl

/-- A path depends on the kind and the normal form only. -/
theorem path_eq (database : String) (e : Endpoint) :
    e.path database =
      "/" ++ (e.kind.word ++ (e.kind.lead database ++ e.normalize.argument)) := by
  apply String.toList_injective
  cases e with
  | query sql limit fetchPlan =>
    rw [normalize_query]
    simp [path, kind, Kind.word, Kind.lead, argument, querySuffix_eq]
  | document rid fetchPlan =>
    cases h : nonEmpty fetchPlan <;>
      simp [path, kind, Kind.word, Kind.lead, normalize, argument, suffix, h]
  | _ => simp [path, kind, Kind.word, Kind.lead, normalize, argument]

theorem request_eq_of_normalize {e e' : Endpoint} (h : e.normalize = e'.normalize)
    (p : DatabasePath) : (e.method, e.url p) = (e'.method, e'.url p) := by
  have hkind : e.kind = e'.kind := by rw [← kind_normalize e, h, kind_normalize e']
  rw [method_eq, method_eq, url, url, path_eq, path_eq, h, hkind]

def text? (code : List Char) : Option String := do
  (Text.ofUtf8 (← Text.percentDecode? code)).toOption

def settings : List Char → Option String × Option String
  | [] => (none, none)
  | _ :: s => (some (.ofList (splitSegment s).1), behindSlash? (splitSegment s).2)

def ofArgument? (s : List Char) : Kind → Option Endpoint
  | .connect => some connect
  | .query => (text? (splitSegment s).1).map fun sql =>
    query sql (settings (splitSegment s).2).1 (settings (splitSegment s).2).2
  | .document => some (document (.ofList (splitSegment s).1) (behindSlash? (splitSegment s).2))
  | .classInfo => some (classInfo (.ofList s))
  | .createClass => some (createClass (.ofList s))
  | .cluster => some (cluster (.ofList s))
  | .command => (text? (splitSegment s).1).map command
  | .server => some server
  | .disconnect => some disconnect

def splitUrl (p : DatabasePath) (url : String) : List Char × List Char :=
  splitSegment (url.toList.drop (p.serverUrl.length + 1))

/-- The endpoint that a server with the address of a database reads a request as. -/
def ofRequest? (p : DatabasePath) (m : Method) (url : String) : Option Endpoint := do
  let kind ← Kind.ofWord? m (splitUrl p url).1
  ofArgument? ((splitUrl p url).2.drop (kind.lead p.database).length) kind

def Segmented : Endpoint → Prop
  | query _ limit _ => ∀ n ∈ limit, '/' ∉ n.toList
  | document rid _ => '/' ∉ rid.toList
  | _ => True

def Readable : Endpoint → Prop
  | query _ limit fetchPlan =>
    (∀ n ∈ limit, '/' ∉ n.toList) ∧ (limit = none → fetchPlan = none)
  | document rid _ => '/' ∉ rid.toList
  | _ => True

theorem slash_not_mem_effectiveLimit {limit fetchPlan : Option String}
    (h : ∀ n ∈ limit, '/' ∉ n.toList) : ∀ n ∈ effectiveLimit limit fetchPlan, '/' ∉ n.toList := by
  intro n hn
  unfold effectiveLimit at hn
  cases hl : nonEmpty limit with
  | some m =>
    rw [hl, Option.some_or, Option.mem_some] at hn
    subst hn
    exact h m (Option.mem_filter_iff.mp hl).1
  | none =>
    rw [hl, Option.none_or] at hn
    obtain ⟨_, _, rfl⟩ := Option.map_eq_some_iff.mp hn
    decide

theorem slash_not_mem_bareRecordId {rid : String} (h : '/' ∉ rid.toList) :
    '/' ∉ (bareRecordId rid).toList := by
  unfold bareRecordId
  split
  · rename_i r hr
    rw [hr] at h
    rw [String.toList_ofList]
    exact List.not_mem_of_not_mem_cons h
  · exact h

theorem Segmented.readable_normalize {e : Endpoint} (h : e.Segmented) : e.normalize.Readable := by
  cases e with
  | query sql limit fetchPlan =>
    rw [normalize_query]
    refine ⟨slash_not_mem_effectiveLimit h, fun hn => ?_⟩
    rw [effectiveLimit, Option.or_eq_none_iff, Option.map_eq_none_iff] at hn
    exact hn.2
  | document rid fetchPlan => exact slash_not_mem_bareRecordId h
  | _ => trivial

theorem text?_percentEncode (sql : String) : text? (Text.percentEncode sql).toList = some sql := by
  have h : Text.ofUtf8 (Text.utf8Bytes sql.toList) = .ok sql := Text.ofUtf8_eq_ok_iff.mpr rfl
  simp [text?, Text.percentDecode?_percentEncode, h, Except.toOption]

theorem head?_suffix (limit fetchPlan : Option String) :
    ∀ c ∈ (suffix limit fetchPlan).toList.head?, c = '/' := by
  cases limit <;> cases fetchPlan <;> simp [suffix]

theorem behindSlash?_suffix (value : Option String) :
    behindSlash? (suffix value none).toList = value := by
  cases value <;> simp [suffix, behindSlash?]

theorem settings_suffix {limit fetchPlan : Option String} (hn : ∀ n ∈ limit, '/' ∉ n.toList)
    (hp : limit = none → fetchPlan = none) :
    settings (suffix limit fetchPlan).toList = (limit, fetchPlan) := by
  cases limit with
  | none =>
    rw [hp rfl]
    rfl
  | some n =>
    have hs : (suffix (some n) fetchPlan).toList =
        '/' :: (n.toList ++ (suffix fetchPlan none).toList) := by
      cases fetchPlan <;> simp [suffix]
    rw [hs, settings, splitSegment_append (hn n rfl) (head?_suffix fetchPlan none),
      behindSlash?_suffix, String.ofList_toList]

/-- An endpoint is read back from its arguments. -/
theorem ofArgument?_argument {e : Endpoint} (h : e.Readable) :
    ofArgument? e.argument.toList e.kind = some e := by
  cases e with
  | query sql limit fetchPlan =>
    rw [argument, String.toList_append, kind, ofArgument?,
      splitSegment_append (Text.slash_not_mem_percentEncode sql) (head?_suffix limit fetchPlan),
      text?_percentEncode, settings_suffix h.1 h.2]
    rfl
  | document rid fetchPlan =>
    rw [argument, String.toList_append, kind, ofArgument?,
      splitSegment_append h (head?_suffix fetchPlan none), behindSlash?_suffix,
      String.ofList_toList]
  | command sql =>
    rw [argument, String.toList_append, kind, ofArgument?,
      splitSegment_append (Text.slash_not_mem_percentEncode sql) (by simp), text?_percentEncode]
    rfl
  | _ => simp [argument, kind, ofArgument?]

theorem head?_lead (database : String) (e : Endpoint) :
    ∀ c ∈ (e.kind.lead database ++ e.normalize.argument).toList.head?, c = '/' := by
  cases e <;> simp [kind, Kind.lead, normalize, argument]

theorem splitUrl_url (p : DatabasePath) (e : Endpoint) :
    splitUrl p (e.url p) =
      (e.kind.word.toList, (e.kind.lead p.database).toList ++ e.normalize.argument.toList) := by
  have hurl : (e.url p).toList.drop (p.serverUrl.length + 1) =
      e.kind.word.toList ++ (e.kind.lead p.database ++ e.normalize.argument).toList := by
    rw [url, path_eq, String.toList_append, ← String.length_toList, List.drop_length_add_append,
      String.toList_append, String.toList_append]
    rfl
  rw [splitUrl, hurl, splitSegment_append (Kind.slash_not_mem_word _) (head?_lead _ e),
    String.toList_append]

theorem ofWord?_url (p : DatabasePath) (e : Endpoint) :
    Kind.ofWord? e.method (splitUrl p (e.url p)).1 = some e.kind := by
  rw [splitUrl_url, method_eq, Kind.ofWord?_word]

theorem ofRequest?_url (p : DatabasePath) {e : Endpoint} (h : e.Segmented) :
    ofRequest? p e.method (e.url p) = some e.normalize := by
  have hdrop : (splitUrl p (e.url p)).2.drop (e.kind.lead p.database).length =
      e.normalize.argument.toList := by
    rw [splitUrl_url, ← String.length_toList, List.drop_left]
  rw [ofRequest?, ofWord?_url, Option.bind_eq_bind, Option.bind_some, hdrop, ← kind_normalize,
    ofArgument?_argument h.readable_normalize]

/-- A setting as it was given and as it counts, which is not at all if it is empty. -/
inductive Counts : Option String → Option String → Prop
  | absent : Counts none none
  | empty : Counts (some "") none
  | given {s : String} (h : s ≠ "") : Counts (some s) (some s)

inductive NormalForm : Endpoint → Endpoint → Prop
  | query {limit limit' fetchPlan fetchPlan' : Option String} (hl : Counts limit limit')
      (hp : Counts fetchPlan fetchPlan') (h : fetchPlan' = none ∨ limit' ≠ none) (sql : String) :
      NormalForm (query sql limit fetchPlan) (query sql limit' fetchPlan')
  | queryUnlimited {limit fetchPlan : Option String} {plan : String} (hl : Counts limit none)
      (hp : Counts fetchPlan (some plan)) (sql : String) :
      NormalForm (query sql limit fetchPlan) (query sql (some "20") (some plan))
  | documentMarked {rid : String} {r : List Char} (h : rid.toList = '#' :: r)
      {fetchPlan fetchPlan' : Option String} (hp : Counts fetchPlan fetchPlan') :
      NormalForm (document rid fetchPlan) (document (.ofList r) fetchPlan')
  | document {rid : String} (h : rid.toList.head? ≠ some '#')
      {fetchPlan fetchPlan' : Option String} (hp : Counts fetchPlan fetchPlan') :
      NormalForm (document rid fetchPlan) (document rid fetchPlan')
  | other {e : Endpoint} (hq : e.kind ≠ .query) (hd : e.kind ≠ .document) : NormalForm e e

theorem counts_iff {s s' : Option String} : Counts s s' ↔ nonEmpty s = s' := by
  constructor
  · intro h
    cases h with
    | absent | empty => rfl
    | given h => exact Option.filter_some_pos (decide_eq_true h)
  · rintro rfl
    cases s with
    | none => exact .absent
    | some s =>
      by_cases h : s = ""
      · subst h
        exact .empty
      · have hs : nonEmpty (some s) = some s := Option.filter_some_pos (decide_eq_true h)
        rw [hs]
        exact .given h

theorem bareRecordId_of_marked {rid : String} {r : List Char} (h : rid.toList = '#' :: r) :
    bareRecordId rid = .ofList r := by
  simp only [bareRecordId, h]

theorem bareRecordId_of_unmarked {rid : String} (h : rid.toList.head? ≠ some '#') :
    bareRecordId rid = rid := by
  unfold bareRecordId
  split
  · rename_i r hr
    rw [hr] at h
    exact absurd rfl h
  · rfl

theorem effectiveLimit_of_given {limit fetchPlan : Option String}
    (h : nonEmpty fetchPlan = none ∨ nonEmpty limit ≠ none) :
    effectiveLimit limit fetchPlan = nonEmpty limit := by
  rw [effectiveLimit]
  cases hl : nonEmpty limit with
  | some n => rfl
  | none =>
    rw [h.resolve_right fun hne => hne hl]
    rfl

/-- The normal form of an endpoint is the one endpoint that the rules give for it. -/
theorem normalForm_iff {e n : Endpoint} : NormalForm e n ↔ e.normalize = n := by
  constructor
  · intro h
    cases h with
    | query hl hp h sql =>
      rw [counts_iff] at hl hp
      rw [← hl, ← hp] at h
      rw [normalize_query, effectiveLimit_of_given h, hl, hp]
    | queryUnlimited hl hp sql =>
      rw [counts_iff] at hl hp
      rw [normalize_query, effectiveLimit, hl, hp]
      rfl
    | documentMarked h hp => rw [normalize, bareRecordId_of_marked h, counts_iff.mp hp]
    | document h hp => rw [normalize, bareRecordId_of_unmarked h, counts_iff.mp hp]
    | other hq hd =>
      cases e with
      | query => exact absurd rfl hq
      | document => exact absurd rfl hd
      | _ => rfl
  · rintro rfl
    cases e with
    | query sql limit fetchPlan =>
      rw [normalize_query]
      by_cases h : nonEmpty fetchPlan = none ∨ nonEmpty limit ≠ none
      · rw [effectiveLimit_of_given h]
        exact .query (counts_iff.mpr rfl) (counts_iff.mpr rfl) h sql
      · rw [not_or, not_not] at h
        obtain ⟨plan, hplan⟩ := Option.ne_none_iff_exists'.mp h.1
        rw [effectiveLimit, h.2, hplan]
        exact .queryUnlimited (counts_iff.mpr h.2) (counts_iff.mpr hplan) sql
    | document rid fetchPlan =>
      rw [normalize]
      by_cases h : rid.toList.head? = some '#'
      · obtain ⟨r, hr⟩ := List.head?_eq_some_iff.mp h
        rw [bareRecordId_of_marked hr]
        exact .documentMarked hr (counts_iff.mpr rfl)
      · rw [bareRecordId_of_unmarked h]
        exact .document h (counts_iff.mpr rfl)
    | _ => exact .other Kind.noConfusion Kind.noConfusion

/-- Two requests under the address of a database are the same if and only if their endpoints have
the same normal form, as long as limits and record ids are single segments. Whatever they are, the
requests of different kinds are different. The normal form can be read off the request. -/
theorem requests_determine_endpoints (p : DatabasePath) :
    (∀ e n : Endpoint, e.NormalForm n ↔ e.normalize = n) ∧
    (∀ e e' : Endpoint, e.Segmented → e'.Segmented →
      ((e.method, e.url p) = (e'.method, e'.url p) ↔ e.normalize = e'.normalize)) ∧
    (∀ e e' : Endpoint, (e.method, e.url p) = (e'.method, e'.url p) → e.kind = e'.kind) ∧
    ∀ e : Endpoint, e.Segmented → ofRequest? p e.method (e.url p) = some e.normalize := by
  refine ⟨fun e n => normalForm_iff, ?_, ?_, fun e he => ofRequest?_url p he⟩
  · intro e e' he he'
    refine ⟨fun h => ?_, fun h => request_eq_of_normalize h p⟩
    rw [Prod.mk.injEq] at h
    have hr := ofRequest?_url p he
    rw [h.1, h.2, ofRequest?_url p he', Option.some.injEq] at hr
    exact hr.symm
  · intro e e' h
    rw [Prod.mk.injEq] at h
    have hr := ofWord?_url p e
    rw [h.1, h.2, ofWord?_url p e', Option.some.injEq] at hr
    exact hr.symm

/-- A fetch plan without a limit, and the same with the limit that it gets. Slashes in the text of the
query and in the fetch plan do not confuse the two. -/
theorem requests_determine_endpoints_slashes :
    let p := DatabasePath.parse "http://localhost:2480/demo"
    let e := query "/20/x" none (some "%2F/y")
    let e' := query "/20/x" (some "20") (some "%2F/y")
    e.Segmented ∧ e'.Segmented ∧ e ≠ e' ∧ (e.method, e.url p) = (e'.method, e'.url p) ∧
      ofRequest? p e.method (e.url p) = some e' := by
  intro p e e'
  obtain ⟨_, hiff, _, hread⟩ := requests_determine_endpoints p
  have he : e.Segmented := fun n hn => by cases hn
  have he' : e'.Segmented := fun n hn => by
    cases hn
    decide
  have hn : e.normalize = e' := by decide
  have hn' : e'.normalize = e' := by decide
  refine ⟨he, he', by decide, (hiff e e' he he').mpr (hn.trans hn'.symm), ?_⟩
  rw [hread e he, hn]

end Endpoint

end DocumentRest
