import GrammarBench.Proofs.Driver.Words
import GrammarBench.Proofs.Staging
import Mathlib.Computability.Language
import Mathlib.Data.Char

/-!
# Names that a driver takes

A driver takes plain names only: they are the language `plainNames`, which is given here as a
regular expression and not by the function that tests a name. The names of a request are looked at
role after role, and the first one that is missing or not plain decides what is said
(`FirstComplaint`). Main statement: there is a driver exactly when no name is to be complained
about, the complaint is the same for both kinds of backends, and a driver that is refused leaves the
host as it is (`render_vets_names`).
-/

namespace GrammarBench

open Computability

section Traversal

variable {ε α : Type}

/-- A list is gone through to its end exactly when no element of it is refused. -/
theorem forM_eq_ok {f : α → Except ε Unit} {xs : List α} :
    xs.forM f = .ok () ↔ ∀ x ∈ xs, f x = .ok () := by
  induction xs with
  | nil => simp [List.forM, pure, Except.pure]
  | cons x xs ih =>
      show (f x >>= fun _ => xs.forM f) = .ok () ↔ _
      rw [bind_eq_ok, List.forall_mem_cons, ← ih]
      constructor
      · rintro ⟨⟨⟩, hx, hxs⟩
        exact ⟨hx, hxs⟩
      · rintro ⟨hx, hxs⟩
        exact ⟨(), hx, hxs⟩

/-- It is given up with the error of the first element that is refused. -/
theorem forM_eq_error {f : α → Except ε Unit} {xs : List α} {e : ε} :
    xs.forM f = .error e ↔ ∃ before x after, xs = before ++ x :: after
      ∧ (∀ y ∈ before, f y = .ok ()) ∧ f x = .error e := by
  induction xs with
  | nil => simp [List.forM, pure, Except.pure]
  | cons x xs ih =>
      show (f x >>= fun _ => xs.forM f) = .error e ↔ _
      rcases hx : f x with e' | ⟨⟩
      · rw [error_bind]
        constructor
        · intro h
          exact ⟨[], x, xs, rfl, by simp, hx.trans (by simpa using h)⟩
        · rintro ⟨_ | ⟨y, before⟩, z, after, heq, hbefore, hz⟩
          · cases heq
            rw [← hz, hx]
          · cases heq
            have hok := hbefore x List.mem_cons_self
            rw [hx] at hok
            cases hok
      · rw [ok_bind, ih]
        constructor
        · rintro ⟨before, z, after, rfl, hbefore, hz⟩
          exact ⟨x :: before, z, after, rfl, List.forall_mem_cons.mpr ⟨hx, hbefore⟩, hz⟩
        · rintro ⟨_ | ⟨y, before⟩, z, after, heq, hbefore, hz⟩
          · cases heq
            rw [hx] at hz
            cases hz
          · cases heq
            exact ⟨before, z, after, rfl, (List.forall_mem_cons.mp hbefore).2, hz⟩

end Traversal

/-- The roles whose names a driver needs, in the order in which they are looked at. -/
def DriverSpec.roles (spec : DriverSpec) : List Driver.Role :=
  if spec.isLexerOnly then [.lexer] else [.lexer, .parser, .listener, .visitor, .startRule]

namespace Driver

/-! ## Plain names -/

/-- The texts of one character out of a set. -/
def single (s : Set Char) : Language Char :=
  {cs | ∃ c ∈ s, cs = [c]}

def letters : Set Char := Set.Icc 'A' 'Z' ∪ Set.Icc 'a' 'z'

def nameStarts : Set Char := letters ∪ {'_', '$'}

def nameParts : Set Char := nameStarts ∪ Set.Icc '0' '9'

/-- The names that a driver takes: a letter, a low line or a dollar sign, and behind it any number
of these and of digits. -/
def plainNames : Language Char := single nameStarts * (single nameParts)∗

theorem mem_kstar_single {s : Set Char} {cs : List Char} :
    cs ∈ (single s)∗ ↔ ∀ c ∈ cs, c ∈ s := by
  rw [Language.mem_kstar]
  constructor
  · rintro ⟨pieces, rfl, hpieces⟩ c hc
    obtain ⟨piece, hpiece, hc⟩ := List.mem_flatten.mp hc
    obtain ⟨c', hc', rfl⟩ := hpieces piece hpiece
    rw [List.mem_singleton.mp hc]
    exact hc'
  · intro h
    refine ⟨cs.map ([·]), ?_, fun piece hpiece => ?_⟩
    · rw [← List.flatMap_def, List.flatMap_singleton' cs]
    · obtain ⟨c, hc, rfl⟩ := List.mem_map.mp hpiece
      exact ⟨c, h c hc, rfl⟩

theorem mem_nameStarts {c : Char} : c ∈ nameStarts ↔ isIdentifierStart c = true := by
  simp only [nameStarts, letters, isIdentifierStart, Set.mem_union, Set.mem_Icc,
    Set.mem_insert_iff, Set.mem_singleton_iff, Bool.or_eq_true, Bool.and_eq_true,
    decide_eq_true_eq, beq_iff_eq, or_assoc]

theorem mem_nameParts {c : Char} : c ∈ nameParts ↔ isIdentifierPart c = true := by
  simp [nameParts, isIdentifierPart, mem_nameStarts]

theorem mem_plainNames {cs : List Char} : cs ∈ plainNames ↔ isIdentifier cs = true := by
  rw [plainNames, Language.mem_mul]
  cases cs with
  | nil =>
      constructor
      · rintro ⟨_, ⟨c, hc, rfl⟩, rest, hrest, heq⟩
        cases heq
      · intro h
        cases h
  | cons c cs =>
      rw [isIdentifier, Bool.and_eq_true, ← mem_nameStarts, List.all_eq_true]
      constructor
      · rintro ⟨_, ⟨c', hc, rfl⟩, rest, hrest, heq⟩
        cases heq
        exact ⟨hc, fun x hx => mem_nameParts.mp (mem_kstar_single.mp hrest x hx)⟩
      · rintro ⟨hc, hrest⟩
        exact ⟨[c], ⟨c, hc, rfl⟩, cs,
          mem_kstar_single.mpr fun x hx => mem_nameParts.mpr (hrest x hx), rfl⟩

/-! ## The first name that is no good -/

variable {spec : DriverSpec} {role : Role} {text : String}

/-- The name for a role is given and plain. -/
def Accepted (spec : DriverSpec) (role : Role) : Prop :=
  ∃ name, spec.name? role = some name ∧ name.toList ∈ plainNames

/-- What is said about the name for a role that is not accepted. -/
inductive Complaint (spec : DriverSpec) (role : Role) : String → Prop
  | missing : spec.name? role = none ∨ spec.name? role = some "" →
      Complaint spec role
        (role.word ++ " name is required by the " ++ spec.family ++ " template")
  | malformed {name : String} : spec.name? role = some name → name ≠ "" →
      name.toList ∉ plainNames →
      Complaint spec role
        (role.word ++ " name " ++ Text.quoted name ++ " is not a plain identifier")

/-- What is said about a request: the complaint about the first name that is not accepted. -/
def FirstComplaint (spec : DriverSpec) (text : String) : Prop :=
  ∃ before role after, spec.roles = before ++ role :: after
    ∧ (∀ earlier ∈ before, Accepted spec earlier) ∧ Complaint spec role text

/-- Looks at the name for one role. -/
def checkName (spec : DriverSpec) (role : Role) : Except NameFault Unit := do
  let _ ← identifier spec.family role (spec.name? role)

theorem checkName_eq_ok : checkName spec role = .ok () ↔ Accepted spec role := by
  unfold checkName Accepted
  rw [bind_eq_ok]
  simp only [identifier_eq_ok, mem_plainNames]
  constructor
  · rintro ⟨id, hid, -⟩
    exact ⟨id.text, hid, id.isPlain⟩
  · rintro ⟨name, hname, hplain⟩
    exact ⟨⟨name, hplain⟩, hname, rfl⟩

theorem identifier_of_missing {family : String} {given : Option String}
    (h : given = none ∨ given = some "") :
    identifier family role given = .error (.missing role family) := by
  rcases h with rfl | rfl <;> rfl

theorem identifier_of_malformed {family name : String} (hne : name ≠ "")
    (hplain : name.toList ∉ plainNames) :
    identifier family role (some name) = .error (.malformed role name) := by
  have hgiven : (some name).filter (!·.isEmpty) = some name := by simpa using hne
  have hnot : ¬ isIdentifier name.toList = true := mem_plainNames.not.mp hplain
  unfold identifier
  rw [hgiven]
  exact dif_neg hnot

/-- A name is refused with the complaint about it. -/
theorem checkName_eq_error :
    (∃ fault, checkName spec role = .error fault ∧ fault.message = text)
      ↔ Complaint spec role text := by
  constructor
  · rintro ⟨fault, hfault, rfl⟩
    by_cases hmissing : spec.name? role = none ∨ spec.name? role = some ""
    · rw [checkName, identifier_of_missing hmissing] at hfault
      cases hfault
      exact .missing hmissing
    · obtain ⟨hnone, hempty⟩ := not_or.mp hmissing
      obtain ⟨name, hname⟩ := Option.ne_none_iff_exists'.mp hnone
      have hne : name ≠ "" := by
        rintro rfl
        exact hempty hname
      by_cases hplain : name.toList ∈ plainNames
      · rw [checkName_eq_ok.mpr ⟨name, hname, hplain⟩] at hfault
        cases hfault
      · rw [checkName, hname, identifier_of_malformed hne hplain] at hfault
        cases hfault
        exact .malformed hname hne hplain
  · intro h
    cases h with
    | missing hmissing =>
        refine ⟨.missing role spec.family, ?_, rfl⟩
        rw [checkName, identifier_of_missing hmissing]
        rfl
    | @malformed name hname hne hplain =>
        refine ⟨.malformed role name, ?_, rfl⟩
        rw [checkName, hname, identifier_of_malformed hne hplain]
        rfl

/-- The names are looked at one role after another. -/
theorem recognizer_map (spec : DriverSpec) :
    (fun _ => ()) <$> spec.recognizer = spec.roles.forM (checkName spec) := by
  unfold DriverSpec.recognizer DriverSpec.roles
  cases spec.isLexerOnly with
  | true =>
      simp only [if_true, List.forM_eq_forM, List.forM_cons, List.forM_nil, checkName,
        DriverSpec.name?, map_bind, map_pure, bind_assoc, pure_bind]
  | false =>
      simp only [Bool.false_eq_true, if_false, List.forM_eq_forM, List.forM_cons, List.forM_nil,
        checkName, DriverSpec.name?, map_bind, map_pure, bind_assoc, pure_bind]

/-! ## Vetting -/

theorem exists_render_eq_ok {kind : BackendKind} :
    (∃ driver, render spec kind = .ok driver) ↔ ∀ role ∈ spec.roles, Accepted spec role := by
  simp only [← checkName_eq_ok]
  rw [← forM_eq_ok, ← recognizer_map]
  unfold render
  rcases spec.recognizer with fault | recognizer
  · constructor
    · rintro ⟨_, h⟩
      cases h
    · intro h
      cases h
  · exact ⟨fun _ => rfl, fun _ => ⟨_, rfl⟩⟩

theorem render_eq_error {kind : BackendKind} {f : Failure} :
    render spec kind = .error f ↔ ∃ text, FirstComplaint spec text ∧ f = .synthesis text := by
  have hrender : render spec kind = .error f ↔
      ∃ fault, (fun _ => ()) <$> spec.recognizer = .error fault ∧ f = .synthesis fault.message := by
    unfold render
    rcases spec.recognizer with fault | recognizer
    · constructor
      · intro h
        cases h
        exact ⟨fault, rfl, rfl⟩
      · rintro ⟨_, hfault, rfl⟩
        cases hfault
        rfl
    · constructor
      · intro h
        cases h
      · rintro ⟨_, hfault, -⟩
        cases hfault
  rw [hrender]
  simp only [recognizer_map, forM_eq_error, checkName_eq_ok, FirstComplaint, ← checkName_eq_error]
  constructor
  · rintro ⟨fault, ⟨before, role, after, hroles, hbefore, hrole⟩, rfl⟩
    exact ⟨_, ⟨before, role, after, hroles, hbefore, fault, hrole, rfl⟩, rfl⟩
  · rintro ⟨_, ⟨before, role, after, hroles, hbefore, fault, hrole, rfl⟩, rfl⟩
    exact ⟨fault, ⟨before, role, after, hroles, hbefore, hrole⟩, rfl⟩

/-- A driver that exercises a lexer alone does not depend on the names for a parser. -/
theorem render_of_lexerOnly (h : spec.isLexerOnly = true) (kind : BackendKind)
    (listenerName visitorName startRuleName : Option String) :
    render { spec with listenerName, visitorName, startRuleName } kind = render spec kind := by
  have honly : { spec with listenerName, visitorName, startRuleName }.isLexerOnly = true := h
  simp only [render, DriverSpec.recognizer, DriverSpec.family, honly, h, if_true]
  rfl

/-- What becomes of the names of a request. -/
structure Vetted (spec : DriverSpec) : Prop where
  /-- There is a driver exactly when each name that is looked at is given and plain. -/
  accepted : ∀ kind,
    (∃ driver, render spec kind = .ok driver) ↔ ∀ role ∈ spec.roles, Accepted spec role
  /-- If not, the failure is the complaint about the first name that is not. -/
  refused : ∀ kind f,
    render spec kind = .error f ↔ ∃ text, FirstComplaint spec text ∧ f = .synthesis text
  /-- Both kinds of drivers are refused alike. -/
  alike : ∀ f, render spec .process = .error f ↔ render spec .browser = .error f
  /-- Without a parser the names that only a parser needs are not looked at. -/
  unseen : spec.isLexerOnly = true → ∀ kind listenerName visitorName startRuleName,
    render { spec with listenerName, visitorName, startRuleName } kind = render spec kind
  /-- A driver that is refused is not written, and nothing else is done to the host either. -/
  unwritten : ∀ kind f, render spec kind = .error f →
    ∀ (area : StagingArea) (s : Host), (area.writeDriver spec kind).runOn s = (.error f, s)

/-- **The names of a driver are vetted.** -/
theorem render_vets_names (spec : DriverSpec) : Vetted spec where
  accepted _ := exists_render_eq_ok
  refused _ _ := render_eq_error
  alike _ := render_eq_error.trans render_eq_error.symm
  unseen h kind := render_of_lexerOnly h kind
  unwritten kind f h area s := by
    rw [StagingArea.runOn_writeDriver, h]

/-- A name that is missing is complained about before one that is malformed and comes later. -/
example : render (DriverSpec.parser "P" "L" "" "1x" "s") .browser
    = .error (.synthesis "listener name is required by the parser template") := rfl

end Driver

end GrammarBench
