/- Where and in which order the parameters of a request stand does not matter. -/
import TenantScope.Proofs.Http.Confinement
import Mathlib.Logic.Relation

namespace TenantScope

namespace Form

/-! Parts and their pairs -/

/-- The parts of some octets between ampersands, empty ones included. -/
def parts (bs : Bytes) : List Bytes := splitAll (· == 0x26) bs

/-- The keys and values of some parts, of which empty ones have none. -/
def pairsOf (parts : List Bytes) : List (Text × Text) := (parts.filter (!·.isEmpty)).map pairOf

theorem pairsOf_append (xs ys : List Bytes) : pairsOf (xs ++ ys) = pairsOf xs ++ pairsOf ys := by
  simp only [pairsOf, List.filter_append, List.map_append]

theorem pairsOf_nil_cons (xs : List Bytes) : pairsOf ([] :: xs) = pairsOf xs := rfl

theorem pairsOf_cons {x : Bytes} (h : x ≠ []) (xs : List Bytes) :
    pairsOf (x :: xs) = pairOf x :: pairsOf xs := by
  cases x with
  | nil => exact absurd rfl h
  | cons b x => rfl

/-! Rearrangements -/

/-- A change of some parts that keeps the values of every key: an empty part is put in, a part is
encoded in another way, or two parts with different keys change places. -/
inductive Change : List Bytes → List Bytes → Prop
  | blank (xs ys : List Bytes) : Change (xs ++ ys) (xs ++ [] :: ys)
  | recode (xs ys : List Bytes) {x y : Bytes} :
    x ≠ [] → y ≠ [] → pairOf x = pairOf y → Change (xs ++ x :: ys) (xs ++ y :: ys)
  | swap (xs ys : List Bytes) {x y : Bytes} :
    (pairOf x).1 ≠ (pairOf y).1 → Change (xs ++ x :: y :: ys) (xs ++ y :: x :: ys)

/-- A change of the parts of a body and of those of a query string: either of them changes, or the
leading parts of the query string move to the end of the body. -/
inductive Rearrangement : List Bytes × List Bytes → List Bytes × List Bytes → Prop
  | body {xs ys : List Bytes} (query : List Bytes) :
    Change xs ys → Rearrangement (xs, query) (ys, query)
  | query {xs ys : List Bytes} (body : List Bytes) :
    Change xs ys → Rearrangement (body, xs) (body, ys)
  | move (body xs ys : List Bytes) : Rearrangement (body, xs ++ ys) (body ++ xs, ys)

theorem pairsOf_singleton_key {x : Bytes} {p : Text × Text} (h : p ∈ pairsOf [x]) :
    p = pairOf x := by
  cases x with
  | nil => cases h
  | cons b x => exact List.mem_singleton.mp h

theorem Change.valuesOf_eq {xs ys : List Bytes} (h : Change xs ys) (key : Text) :
    valuesOf key (pairsOf xs) = valuesOf key (pairsOf ys) := by
  cases h with
  | blank xs ys => rw [pairsOf_append, pairsOf_append, pairsOf_nil_cons]
  | recode xs ys hx hy heq =>
      rw [pairsOf_append, pairsOf_append, pairsOf_cons hx, pairsOf_cons hy, heq]
  | @swap xs ys x y hne =>
      have hdiffer : ∀ p ∈ pairsOf [x], ∀ q ∈ pairsOf [y], p.1 ≠ q.1 := by
        intro p hp q hq
        rw [pairsOf_singleton_key hp, pairsOf_singleton_key hq]
        exact hne
      have hsplit : ∀ v w : Bytes, valuesOf key (pairsOf (xs ++ v :: w :: ys)) =
          valuesOf key (pairsOf xs) ++ (valuesOf key (pairsOf [v] ++ pairsOf [w]) ++
            valuesOf key (pairsOf ys)) := by
        intro v w
        rw [← valuesOf_append, ← valuesOf_append, ← pairsOf_append, ← pairsOf_append,
          ← pairsOf_append]
        rfl
      rw [hsplit, hsplit, valuesOf_append_comm hdiffer]

theorem Rearrangement.valuesOf_eq {layout layout' : List Bytes × List Bytes}
    (h : Rearrangement layout layout') (key : Text) :
    valuesOf key (pairsOf (layout.1 ++ layout.2)) =
      valuesOf key (pairsOf (layout'.1 ++ layout'.2)) := by
  cases h with
  | body query h =>
      rw [pairsOf_append, pairsOf_append, valuesOf_append, valuesOf_append, h.valuesOf_eq]
  | query body h =>
      rw [pairsOf_append, pairsOf_append, valuesOf_append, valuesOf_append, h.valuesOf_eq]
  | move body xs ys => rw [List.append_assoc]

/-- However often parts are rearranged, there and back, every key keeps its values. -/
theorem valuesOf_eq_of_rearranged {layout layout' : List Bytes × List Bytes}
    (h : Relation.EqvGen Rearrangement layout layout') (key : Text) :
    valuesOf key (pairsOf (layout.1 ++ layout.2)) =
      valuesOf key (pairsOf (layout'.1 ++ layout'.2)) := by
  induction h with
  | rel _ _ hstep => exact hstep.valuesOf_eq key
  | refl _ => rfl
  | symm _ _ _ ih => exact ih.symm
  | trans _ _ _ _ _ ih ih' => exact ih.trans ih'

/-! What is sent with a request -/

/-- The keys and values of a body followed by those of a query string. -/
def sent (body : Bytes) (query : Option Text) : List (Text × Text) :=
  pairs body ++ pairs (Utf8.encode (query.getD []))

/-- The parts of a body and of a query string. -/
def layout (body : Bytes) (query : Option Text) : List Bytes × List Bytes :=
  (parts body, parts (Utf8.encode (query.getD [])))

theorem sent_eq (body : Bytes) (query : Option Text) :
    sent body query = pairsOf ((layout body query).1 ++ (layout body query).2) := by
  rw [pairsOf_append]
  rfl

end Form

/-- The body that counts of a request that is answered: none of a GET, and that of a posted form if
it is not too long. -/
inductive Request.Sends (r : Request) : Bytes → Prop
  | got : r.method = "GET".toList → Sends r []
  | posted : r.PostsForm → r.body.length ≤ maxFormBytes → Sends r r.body

namespace Request.Sends

variable {r : Request} {body : Bytes}

theorem method (h : r.Sends body) : r.method ∈ Proxy.methods := by
  cases h with
  | got hmethod => rw [hmethod]; exact List.mem_cons_self
  | posted hposts _ => rw [hposts.method]; exact List.mem_cons_of_mem _ List.mem_cons_self

theorem carries (h : r.Sends body) : r.Carries body := by
  cases h with
  | got hmethod =>
      refine .nothing fun hposts => ?_
      rw [hposts.method] at hmethod
      exact absurd hmethod (by decide)
  | posted hposts hle => exact .form hposts hle

end Request.Sends

namespace Proxy

/-- What is planned for two requests with the same path is the same if the same form is made of what
they send. -/
theorem plan_congr (p : Proxy) {r r' : Request} {body body' : Bytes} (h : r.Sends body)
    (h' : r'.Sends body') (hpath : r.target.path = r'.target.path)
    (hform : Form.ofParts body r.target.query = Form.ofParts body' r'.target.query) :
    p.plan r = p.plan r' := by
  have hdecoded : r.target.decodedPath? = r'.target.decodedPath? := by
    rw [Target.decodedPath?, hpath, Target.decodedPath?]
  cases hpath' : r'.target.decodedPath? with
  | none =>
      have hrefuses : p.Refuses r (.badTarget r.target.path) :=
        .path h.method (hdecoded.trans hpath')
      have hrefuses' : p.Refuses r' (.badTarget r'.target.path) := .path h'.method hpath'
      rw [hrefuses.plan, hrefuses'.plan, hpath]
  | some path =>
      rw [p.plan_of_located ⟨h.method, hdecoded.trans hpath'⟩,
        p.plan_of_located ⟨h'.method, hpath'⟩, h.carries.formBody, h'.carries.formBody]
      simp only [bind, Except.bind, hform]

/-- Two requests with the same path lead to the same error or to the same call if every key has the
same values in the same order, the body before the query string. So do two whose bodies and query
strings are turned into each other by moving parts from the front of the query string to the end of
the body, putting in empty parts, encoding parts in another way and exchanging parts with different
keys. -/
theorem plan_eq_of_valuesOf_eq (p : Proxy) {r r' : Request} {body body' : Bytes}
    (h : r.Sends body) (h' : r'.Sends body') (hpath : r.target.path = r'.target.path) :
    ((∀ key, valuesOf key (Form.sent body r.target.query) =
        valuesOf key (Form.sent body' r'.target.query)) → p.plan r = p.plan r') ∧
      (Relation.EqvGen Form.Rearrangement (Form.layout body r.target.query)
        (Form.layout body' r'.target.query) → p.plan r = p.plan r') := by
  have hvalues : (∀ key, valuesOf key (Form.sent body r.target.query) =
      valuesOf key (Form.sent body' r'.target.query)) → p.plan r = p.plan r' :=
    fun hvalues => p.plan_congr h h' hpath (Form.ofPairs_congr hvalues)
  refine ⟨hvalues, fun hlayouts => hvalues fun key => ?_⟩
  rw [Form.sent_eq, Form.sent_eq]
  exact Form.valuesOf_eq_of_rearranged hlayouts key

/-- Two parameters in a query string, or one of them in a body and the other encoded otherwise. -/
theorem plan_eq_of_valuesOf_eq_moved :
    let r : Request :=
      ⟨"GET".toList, ⟨"/t1/api/v1/query".toList, some "time=1&query=a".toList⟩, [], []⟩
    let r' : Request :=
      ⟨"POST".toList, ⟨"/t1/api/v1/query".toList, some "&query=%61".toList⟩,
        [(Headers.typeName, "Application/X-WWW-Form-Urlencoded; charset=UTF-8".toList)],
        Utf8.encode "time=1".toList⟩
    r.Sends [] ∧ r'.Sends r'.body ∧ r.target.path = r'.target.path ∧
      Relation.EqvGen Form.Rearrangement (Form.layout [] r.target.query)
        (Form.layout r'.body r'.target.query) ∧
      (Settings.oneProxy []).plan r = (Settings.oneProxy []).plan r' := by
  intro r r'
  have h : r.Sends [] := .got rfl
  have h' : r'.Sends r'.body :=
    .posted (Request.postsForm_iff.mpr ⟨rfl, by decide⟩) (by decide)
  have hmove : Form.Rearrangement (Form.layout [] r.target.query)
      ([[], Utf8.encode "time=1".toList], [Utf8.encode "query=a".toList]) :=
    .move [[]] [Utf8.encode "time=1".toList] [Utf8.encode "query=a".toList]
  have hblank : Form.Rearrangement ([Utf8.encode "time=1".toList], [Utf8.encode "query=a".toList])
      ([[], Utf8.encode "time=1".toList], [Utf8.encode "query=a".toList]) :=
    .body _ (.blank [] _)
  have hrecode : Form.Rearrangement ([Utf8.encode "time=1".toList], [Utf8.encode "query=a".toList])
      ([Utf8.encode "time=1".toList], [Utf8.encode "query=%61".toList]) :=
    .query _ (.recode [] [] (by decide) (by decide) (by decide))
  have hlast : Form.Rearrangement ([Utf8.encode "time=1".toList], [Utf8.encode "query=%61".toList])
      (Form.layout r'.body r'.target.query) :=
    .query _ (.blank [] _)
  have hmoved : Relation.EqvGen Form.Rearrangement (Form.layout [] r.target.query)
      ([Utf8.encode "time=1".toList], [Utf8.encode "query=a".toList]) :=
    .trans _ _ _ (.rel _ _ hmove) (.symm _ _ (.rel _ _ hblank))
  have hrecoded : Relation.EqvGen Form.Rearrangement
      ([Utf8.encode "time=1".toList], [Utf8.encode "query=a".toList])
      (Form.layout r'.body r'.target.query) :=
    .trans _ _ _ (.rel _ _ hrecode) (.rel _ _ hlast)
  have hlayouts := hmoved.trans _ _ _ hrecoded
  exact ⟨h, h', rfl, hlayouts,
    ((Settings.oneProxy []).plan_eq_of_valuesOf_eq h h' rfl).2 hlayouts⟩

end Proxy
end TenantScope
