import LayerView.Conversion
import Mathlib.Data.List.Induction
import Mathlib.Data.List.Nodup

/-!
# Declaring each name once

Declarations are asked for in a sequence of requests that share one registry.  Whatever the requests
are, what is granted over all of them is the list of first occurrences: the declarations whose name no
earlier declaration of the whole sequence has.  All the others are noted as duplicates, in order.

Main statements:
- `settled_grant`: one request, as first occurrences and repeated names of what it asks for
- `serve_once_per_name`: any sequence of requests, with the place of the declarations in each source
-/

namespace LayerView.ViewClass

open LayerView.Text LayerView.Naming

/-! ## First occurrences -/

/-- Whether the declaration at a place of a list is the first one with its name. -/
def isFirst (ds : List Declaration) (p : Declaration × Nat) : Bool :=
  (ds.take p.2).all fun d => d.name != p.1.name

/-- The declarations whose name no earlier declaration of the list has. -/
def firstOccurrences (ds : List Declaration) : List Declaration :=
  (ds.zipIdx.filter (isFirst ds)).map Prod.fst

/-- The names of the other declarations, in order. -/
def repeatedNames (ds : List Declaration) : List Text :=
  (ds.zipIdx.filter fun p => !isFirst ds p).map fun p => p.1.name

/-- A declaration at the end of a list does not change which of those before it are first. -/
private theorem isFirst_concat {ds : List Declaration} {p : Declaration × Nat}
    (hp : p ∈ ds.zipIdx) (d : Declaration) : isFirst (ds ++ [d]) p = isFirst ds p := by
  have hlt : p.2 < ds.length := by simpa using List.snd_lt_of_mem_zipIdx hp
  unfold isFirst
  rw [List.take_append_of_le_length (Nat.le_of_lt hlt)]

/-- The last declaration of a list is first if no other has its name. -/
private theorem isFirst_last (ds : List Declaration) (d : Declaration) :
    isFirst (ds ++ [d]) (d, ds.length) = decide (d.name ∉ ds.map Declaration.name) := by
  have hiff : isFirst (ds ++ [d]) (d, ds.length) = true ↔ d.name ∉ ds.map Declaration.name := by
    simp [isFirst]
  rw [Bool.eq_iff_iff, hiff, decide_eq_true_iff]

/-- One more declaration is a first occurrence unless its name was there. -/
theorem firstOccurrences_concat (ds : List Declaration) (d : Declaration) :
    firstOccurrences (ds ++ [d]) =
      firstOccurrences ds ++ if d.name ∈ ds.map Declaration.name then [] else [d] := by
  have hold : ds.zipIdx.filter (isFirst (ds ++ [d])) = ds.zipIdx.filter (isFirst ds) :=
    List.filter_congr fun p hp => isFirst_concat hp d
  unfold firstOccurrences
  rw [List.zipIdx_append, List.filter_append, List.map_append, hold]
  by_cases h : d.name ∈ ds.map Declaration.name <;> simp [isFirst_last, h]

theorem repeatedNames_concat (ds : List Declaration) (d : Declaration) :
    repeatedNames (ds ++ [d]) =
      repeatedNames ds ++ if d.name ∈ ds.map Declaration.name then [d.name] else [] := by
  have hold : ds.zipIdx.filter (fun p => !isFirst (ds ++ [d]) p) =
      ds.zipIdx.filter fun p => !isFirst ds p :=
    List.filter_congr fun p hp => by rw [isFirst_concat hp d]
  unfold repeatedNames
  rw [List.zipIdx_append, List.filter_append, List.map_append, hold]
  by_cases h : d.name ∈ ds.map Declaration.name <;> simp [isFirst_last, h]

theorem mem_of_mem_firstOccurrences {ds : List Declaration} {d : Declaration}
    (h : d ∈ firstOccurrences ds) : d ∈ ds := by
  obtain ⟨p, hp, rfl⟩ := List.mem_map.mp h
  exact List.fst_mem_of_mem_zipIdx (List.mem_filter.mp hp).1

/-- The names of the first occurrences are the names of the list. -/
theorem mem_names_firstOccurrences (ds : List Declaration) (n : Text) :
    n ∈ (firstOccurrences ds).map Declaration.name ↔ n ∈ ds.map Declaration.name := by
  induction ds using List.reverseRecOn with
  | nil => simp [firstOccurrences]
  | append_singleton ds d ih =>
    rw [firstOccurrences_concat, List.map_append, List.map_append, List.mem_append,
      List.mem_append, ih]
    by_cases h : d.name ∈ ds.map Declaration.name
    · -- a repeated name adds nothing on the left, and nothing new on the right
      have hd : n ∈ [d].map Declaration.name → n ∈ ds.map Declaration.name := by
        intro hn
        rwa [List.mem_singleton.mp hn]
      simp only [h, if_true, List.map_nil, List.not_mem_nil, or_false]
      exact ⟨Or.inl, fun hn => hn.elim id hd⟩
    · simp only [h, if_false]

/-- No two first occurrences have the same name. -/
theorem nodup_names_firstOccurrences (ds : List Declaration) :
    ((firstOccurrences ds).map Declaration.name).Nodup := by
  induction ds using List.reverseRecOn with
  | nil => simp [firstOccurrences]
  | append_singleton ds d ih =>
    rw [firstOccurrences_concat]
    by_cases h : d.name ∈ ds.map Declaration.name
    · simpa only [h, if_true, List.append_nil] using ih
    · simp only [h, if_false, List.map_append]
      -- a name that is new to the list is new to its first occurrences
      have hnew : d.name ∉ (firstOccurrences ds).map Declaration.name := fun hmem =>
        h ((mem_names_firstOccurrences ds d.name).mp hmem)
      exact List.Nodup.append ih (List.nodup_singleton _) (by simpa using hnew)

/-- Every declaration is a first occurrence or repeats a name. -/
theorem length_firstOccurrences_add_repeatedNames (ds : List Declaration) :
    (firstOccurrences ds).length + (repeatedNames ds).length = ds.length := by
  induction ds using List.reverseRecOn with
  | nil => simp [firstOccurrences, repeatedNames]
  | append_singleton ds d ih =>
    rw [firstOccurrences_concat, repeatedNames_concat]
    by_cases h : d.name ∈ ds.map Declaration.name <;>
      simp only [h, if_true, if_false, List.length_append, List.length_nil,
        List.length_singleton] <;> omega

/-- The one first occurrence with a name is the first declaration with that name. -/
theorem filter_firstOccurrences (ds : List Declaration) (n : Text) :
    (firstOccurrences ds).filter (·.name = n) = (ds.find? (·.name = n)).toList := by
  induction ds using List.reverseRecOn with
  | nil => simp [firstOccurrences]
  | append_singleton ds d ih =>
    rw [firstOccurrences_concat, List.filter_append, ih, List.find?_append]
    cases hfind : ds.find? (·.name = n) with
    | some e =>
      -- the name is taken by `e`, so `d` is kept only if it has another name
      obtain ⟨he, hmem⟩ : e.name = n ∧ e ∈ ds :=
        ⟨by simpa using List.find?_some hfind, List.mem_of_find?_eq_some hfind⟩
      have hrest : (if d.name ∈ ds.map Declaration.name then [] else [d]).filter
          (·.name = n) = [] := by
        by_cases hd : d.name = n
        · have : d.name ∈ ds.map Declaration.name := by
            rw [hd, ← he]
            exact List.mem_map_of_mem hmem
          simp [this]
        · split <;> simp [hd]
      rw [hrest]
      simp
    | none =>
      -- nobody has the name yet, so `d` is kept exactly if it has it
      have hn : n ∉ ds.map Declaration.name := by
        intro hmem
        obtain ⟨e, he, hen⟩ := List.mem_map.mp hmem
        exact absurd hen (by simpa using List.find?_eq_none.mp hfind e he)
      by_cases hd : d.name = n
      · subst hd
        simp [hn]
      · split <;> simp [hd]

/-- Without repeated names every declaration is the first one with its name. -/
theorem find?_name_of_repeatedNames_eq_nil {ds : List Declaration} (h : repeatedNames ds = [])
    {d : Declaration} (hd : d ∈ ds) : ds.find? (·.name = d.name) = some d := by
  induction ds using List.reverseRecOn with
  | nil => simp at hd
  | append_singleton ds e ih =>
    rw [repeatedNames_concat, List.append_eq_nil_iff] at h
    obtain ⟨hds, he⟩ := h
    -- the last declaration repeats no name, so those before it have others
    have hnew : e.name ∉ ds.map Declaration.name := by
      intro hmem
      simp [hmem] at he
    rw [List.find?_append]
    rcases List.mem_append.mp hd with hmem | hmem
    · rw [ih hds hmem]
      rfl
    · obtain rfl : d = e := by simpa using hmem
      have hnone : ds.find? (·.name = d.name) = none := by
        rw [List.find?_eq_none]
        intro x hx hxd
        exact hnew (List.mem_map.mpr ⟨x, hx, by simpa using hxd⟩)
      simp [hnone]

/-! ## One request -/

/-- A name that was issued is turned down and noted. -/
theorem claim_of_issued {r : Registry} {n : Text} (h : n ∈ r.issued) :
    r.claim n = (false, { r with duplicates := r.duplicates ++ [n] }) := by
  simp [Registry.claim, h]

/-- A name that was not issued is granted. -/
theorem claim_of_not_issued {r : Registry} {n : Text} (h : n ∉ r.issued) :
    r.claim n = (true, { r with issued := n :: r.issued }) := by
  simp [Registry.claim, h]

/-- Asking in two goes with the registry handed on is asking once. -/
theorem grant_append (r : Registry) (ds es : List Declaration) :
    grant r (ds ++ es) =
      ⟨(grant r ds).declarations ++ (grant (grant r ds).registry es).declarations,
        (grant (grant r ds).registry es).registry⟩ := by
  induction ds generalizing r with
  | nil => simp [grant]
  | cons d ds ih =>
    simp only [List.cons_append, grant, ih]
    -- granted or not, `d` leaves one registry to all that comes after it
    cases (r.claim d.name).1 <;> simp

/-- What has been granted and noted when `ds` have been asked for. -/
structure Settled (ds : List Declaration) (g : Granted) : Prop where
  declarations_eq : g.declarations = firstOccurrences ds
  duplicates_eq : g.registry.duplicates = repeatedNames ds
  mem_issued : ∀ n, n ∈ g.registry.issued ↔ n ∈ ds.map Declaration.name

/-- One more declaration keeps the books right. -/
theorem Settled.concat {ds : List Declaration} {g : Granted} (h : Settled ds g)
    (d : Declaration) :
    Settled (ds ++ [d])
      ⟨g.declarations ++ (grant g.registry [d]).declarations, (grant g.registry [d]).registry⟩ := by
  have hiff : d.name ∈ g.registry.issued ↔ d.name ∈ ds.map Declaration.name := h.mem_issued d.name
  -- a name that was asked for before is only noted; a new one is granted and issued
  by_cases hd : d.name ∈ ds.map Declaration.name
  · have hclaim : grant g.registry [d] =
        ⟨[], { g.registry with duplicates := g.registry.duplicates ++ [d.name] }⟩ := by
      simp [grant, claim_of_issued (hiff.mpr hd)]
    rw [hclaim]
    refine ⟨?_, ?_, ?_⟩
    · simp [firstOccurrences_concat, hd, h.declarations_eq]
    · simp [repeatedNames_concat, hd, h.duplicates_eq]
    · intro n
      have hn : n = d.name → n ∈ ds.map Declaration.name := fun e => e ▸ hd
      rw [List.map_append, List.mem_append, h.mem_issued]
      simpa using hn
  · have hclaim : grant g.registry [d] =
        ⟨[d], { g.registry with issued := d.name :: g.registry.issued }⟩ := by
      simp [grant, claim_of_not_issued fun hmem => hd (hiff.mp hmem)]
    rw [hclaim]
    refine ⟨?_, ?_, ?_⟩
    · simp [firstOccurrences_concat, hd, h.declarations_eq]
    · simp [repeatedNames_concat, hd, h.duplicates_eq]
    · intro n
      rw [List.map_append, List.mem_append, List.mem_cons, h.mem_issued]
      simp only [List.map_cons, List.map_nil, List.mem_singleton]
      exact or_comm

/-- A fresh registry keeps the books right for any list of declarations. -/
theorem settled_grant (ds : List Declaration) : Settled ds (grant .empty ds) := by
  induction ds using List.reverseRecOn with
  | nil => exact ⟨rfl, rfl, fun n => by simp [grant, Registry.empty]⟩
  | append_singleton ds d ih =>
    rw [grant_append]
    exact ih.concat d

/-- What was asked for before is not granted again. -/
private theorem grant_eq_nil_of_issued {r : Registry} {ds : List Declaration}
    (h : ∀ d ∈ ds, d.name ∈ r.issued) : (grant r ds).declarations = [] := by
  induction ds generalizing r with
  | nil => rfl
  | cons d ds ih =>
    have hd : d.name ∈ r.issued := h d List.mem_cons_self
    simp only [grant, claim_of_issued hd]
    exact ih fun e he => h e (List.mem_cons_of_mem d he)

/-! ## A block below the first class line -/

/-- A block goes right below the first line with a property, and the lines keep their order. -/
theorem insertBelow_append {p : Text → Bool} {before : List Text} {l : Text} (after : List Text)
    (block : List Text) (hbefore : ∀ k ∈ before, p k = false) (hl : p l = true) :
    insertBelow p block (before ++ l :: after) = before ++ l :: (block ++ after) := by
  induction before with
  | nil => simp [insertBelow, hl]
  | cons k before ih =>
    have hk : p k = false := hbefore k List.mem_cons_self
    simp only [List.cons_append, insertBelow, hk]
    simp [ih fun k' hk' => hbefore k' (List.mem_cons_of_mem k hk')]

/-- A list of lines of which one has a property, cut at the first such line. -/
private theorem exists_first_line {p : Text → Bool} {ls : List Text} (h : ∃ l ∈ ls, p l = true) :
    ∃ before l after, ls = before ++ l :: after ∧ (∀ k ∈ before, p k = false) ∧ p l = true := by
  induction ls with
  | nil => simp at h
  | cons k ls ih =>
    cases hk : p k with
    | true => exact ⟨[], k, ls, rfl, by simp, hk⟩
    | false =>
      -- the line with the property is further down
      have hrest : ∃ l ∈ ls, p l = true := by
        obtain ⟨l, hmem, hl⟩ := h
        rcases List.mem_cons.mp hmem with rfl | hmem
        · simp [hk] at hl
        · exact ⟨l, hmem, hl⟩
      obtain ⟨before, l, after, rfl, hbefore, hl⟩ := ih hrest
      refine ⟨k :: before, l, after, rfl, ?_, hl⟩
      intro k' hk'
      rcases List.mem_cons.mp hk' with rfl | hk'
      · exact hk
      · exact hbefore k' hk'

/-! ## Requests that share a registry -/

/-- A request to declare variables in a source. -/
structure Request where
  source : Text
  wanted : List Variable
deriving DecidableEq, Repr

/-- A source with declarations written in it, and those declarations. -/
structure Declared where
  source : Text
  declarations : List Declaration
deriving DecidableEq, Repr

/-- Serve requests in order; each finds the registry as the one before left it. -/
def serve (r : Registry) : List Request → List Declared × Registry
  | [] => ([], r)
  | q :: qs =>
    let granted := grantAll r q.wanted
    let rest := serve granted.registry qs
    (⟨declare q.source granted.declarations, granted.declarations⟩ :: rest.1, rest.2)

/-- All that requests ask for, in order. -/
def asked (qs : List Request) : List Declaration :=
  qs.flatMap fun q => q.wanted.flatMap Variable.declarations

/-- Requests served in turn grant what one request for all of it grants. -/
theorem serve_eq_grant (r : Registry) (qs : List Request) :
    (serve r qs).1.flatMap Declared.declarations = (grant r (asked qs)).declarations ∧
      (serve r qs).2 = (grant r (asked qs)).registry := by
  induction qs generalizing r with
  | nil => exact ⟨rfl, rfl⟩
  | cons q qs ih =>
    -- the first request hands its registry on to the others
    obtain ⟨hdecls, hreg⟩ := ih (grantAll r q.wanted).registry
    have hasked : asked (q :: qs) = q.wanted.flatMap Variable.declarations ++ asked qs := by
      simp [asked]
    rw [hasked, grant_append]
    refine ⟨?_, hreg⟩
    simp only [serve, List.flatMap_cons, hdecls]
    rfl

/-- A drawing's variables are declared by one request to a fresh registry. -/
theorem run_eq_serve (o : Options) (source : Text) :
    let passes := Conversion.Passes.run (Conversion.viewSource o source)
    ∃ a r, serve .empty [⟨passes.source, passes.allVariables⟩] = ([a], r) ∧
      (Conversion.run o source).value = ⟨addDrawEntry a.source, a.declarations, r.duplicates⟩ := by
  intro passes
  let granted := grantAll .empty passes.allVariables
  refine ⟨⟨declare passes.source granted.declarations, granted.declarations⟩,
    granted.registry, ?_, ?_⟩
  · simp only [serve, granted]
  · simp only [Conversion.run, granted, passes]

/-- Where the declarations of an answer stand: in one block right below the first class line, with
every line of the source in its place.  Without a class line there is no block. -/
def Placed (q : Request) (a : Declared) : Prop :=
  (∀ l ∈ lines q.source, opensClass l = false) ∧ a.source = joinLines (lines q.source) ∨
    ∃ before l after, lines q.source = before ++ l :: after ∧
      (∀ k ∈ before, opensClass k = false) ∧ opensClass l = true ∧
      a.source = joinLines (before ++ l :: (a.declarations.map Declaration.line ++ after))

/-- Lines without the property are left as they are. -/
theorem insertBelow_of_forall {p : Text → Bool} {ls : List Text} (block : List Text)
    (h : ∀ l ∈ ls, p l = false) : insertBelow p block ls = ls := by
  induction ls with
  | nil => rfl
  | cons k ls ih =>
    have hk : p k = false := h k List.mem_cons_self
    simp [insertBelow, hk, ih fun l hl => h l (List.mem_cons_of_mem k hl)]

theorem placed_declare (source : Text) (vs : List Variable) (ds : List Declaration) :
    Placed ⟨source, vs⟩ ⟨declare source ds, ds⟩ := by
  by_cases h : ∃ l ∈ lines source, opensClass l = true
  · obtain ⟨before, l, after, hlines, hbefore, hl⟩ := exists_first_line h
    refine Or.inr ⟨before, l, after, hlines, hbefore, hl, ?_⟩
    simp only [declare, insertInBody, hlines, insertBelow_append after _ hbefore hl]
  · -- without a class line there is no place for the block
    have hnone : ∀ l ∈ lines source, opensClass l = false := by
      intro l hl
      cases hc : opensClass l with
      | false => rfl
      | true => exact absurd ⟨l, hl, hc⟩ h
    refine Or.inl ⟨hnone, ?_⟩
    simp only [declare, insertInBody, insertBelow_of_forall _ hnone]

theorem forall₂_placed_serve (r : Registry) (qs : List Request) :
    List.Forall₂ Placed qs (serve r qs).1 := by
  induction qs generalizing r with
  | nil => exact List.Forall₂.nil
  | cons q qs ih =>
    exact List.Forall₂.cons (placed_declare q.source q.wanted _) (ih _)

/-- A text gives three declarations and every other variable one. -/
private theorem length_declarations (v : Variable) :
    v.declarations.length = if v.kind = .text then 3 else 1 := by
  cases v <;> rfl

private theorem length_flatMap_declarations (vs : List Variable) :
    (vs.flatMap Variable.declarations).length =
      vs.countP (·.kind = .color) + vs.countP (·.kind = .frame) + vs.countP (·.kind = .font) +
        3 * vs.countP (·.kind = .text) := by
  induction vs with
  | nil => rfl
  | cons v vs ih =>
    rw [List.flatMap_cons, List.length_append, ih, length_declarations]
    simp only [List.countP_cons]
    cases v <;> simp [Variable.kind] <;> omega

/-- Each name is declared once over a sequence of requests that were served with one registry. -/
structure OncePerName (qs : List Request) (answers : List Declared) (r : Registry) : Prop where
  /-- No two declarations have the same name. -/
  names_nodup : ((answers.flatMap Declared.declarations).map Declaration.name).Nodup
  /-- The first occurrence of each name is declared, in order. -/
  declarations_eq : answers.flatMap Declared.declarations = firstOccurrences (asked qs)
  /-- The rest is noted, in order. -/
  duplicates_eq : r.duplicates = repeatedNames (asked qs)
  /-- Nothing is declared twice and nothing is forgotten. -/
  total : (answers.flatMap Declared.declarations).length + r.duplicates.length =
    (qs.flatMap Request.wanted).countP (·.kind = .color) +
      (qs.flatMap Request.wanted).countP (·.kind = .frame) +
      (qs.flatMap Request.wanted).countP (·.kind = .font) +
      3 * (qs.flatMap Request.wanted).countP (·.kind = .text)
  /-- A request that comes again declares nothing, whatever its source. -/
  again_nil : ∀ q ∈ qs, ∀ source,
    (serve r [⟨source, q.wanted⟩]).1.flatMap Declared.declarations = []
  /-- Each answer has its declarations below the first class line. -/
  placed : List.Forall₂ Placed qs answers

/-- Each name is declared once, by the first declaration that asks for it.  The conversion of a
drawing makes one request, for its colors, frames, texts and fonts in this order. -/
theorem serve_once_per_name (qs : List Request) :
    OncePerName qs (serve .empty qs).1 (serve .empty qs).2 ∧
      ∀ (o : Options) (source : Text),
        let passes := Conversion.Passes.run (Conversion.viewSource o source)
        ∃ a r, serve .empty [⟨passes.source, passes.allVariables⟩] = ([a], r) ∧
          (Conversion.run o source).value =
            ⟨addDrawEntry a.source, a.declarations, r.duplicates⟩ := by
  -- all requests together are one, for which the books are right
  obtain ⟨hdecls, hreg⟩ := serve_eq_grant .empty qs
  have hsettled := settled_grant (asked qs)
  refine ⟨⟨?_, ?_, ?_, ?_, ?_, forall₂_placed_serve _ qs⟩, run_eq_serve⟩
  · rw [hdecls, hsettled.declarations_eq]
    exact nodup_names_firstOccurrences _
  · rw [hdecls, hsettled.declarations_eq]
  · rw [hreg, hsettled.duplicates_eq]
  · -- each of the declarations that are asked for is granted or noted
    rw [hdecls, hreg, hsettled.declarations_eq, hsettled.duplicates_eq,
      length_firstOccurrences_add_repeatedNames, ← length_flatMap_declarations,
      List.flatMap_assoc]
    rfl
  · intro q hq source
    rw [hreg, (serve_eq_grant _ _).1]
    apply grant_eq_nil_of_issued
    intro d hd
    -- what `q` asks for has been asked for, so its names are issued
    rw [hsettled.mem_issued]
    have hmem : d ∈ asked qs :=
      List.mem_flatMap.mpr ⟨q, hq, by simpa [asked] using hd⟩
    exact List.mem_map_of_mem hmem

end LayerView.ViewClass
