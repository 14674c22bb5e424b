import FormLetter.Proofs.Letter.Courses

/-!
# Where the calls of template code lead

Template code can register pictures and enclosures with any letter that it knows, and it can open
further letters, which are rendered and closed again before it goes on. A course that admits these
steps admits whatever code calls, however deep letters enclose each other. As a rule it admits more
of letters that were opened meanwhile than of those that were there before.
-/

namespace FormLetter.Work

open FormLetter.Script

/-- A course along which the calls of template code lead, as far as it goes on where so many letters
are there: these letters may get pictures and enclosures, and later ones may be added, rendered and
closed. -/
structure Admits (course : Course Workspace) (count : Nat) : Prop where
  given : ∀ {before after}, (count ≤ before.letters.size → course.leads before after) →
    course.leads before after
  picture : ∀ id path, Leads course (addPicture id path)
  enclosure : ∀ id key enclosed, Leads course (addEnclosure id key enclosed)
  add : ∀ new, Leads course (add new)
  renders : ∀ id, count ≤ id → Renders course id
  closePackage : ∀ id, count ≤ id → Leads course (closePackage id)

variable {course : Course Workspace} {count : Nat} (admits : Admits course count)

include admits

theorem leads_showPicture (id : Nat) (path width height name : Value) :
    Leads course (showPicture id path width height name) := by
  unfold showPicture
  refine (leads_pathArgument path).bind fun file => (admits.picture id file).bind fun name => ?_
  refine (leads_letter id).bind fun found => (Leads.lift _).bind fun isNamed => ?_
  refine (Leads.lift _).bind fun name => (Leads.lift _).bind fun width => ?_
  exact (Leads.lift _).bind fun height => Leads.pure _

theorem leads_openAt (layout : Layout) (path : Path) : Leads course (openAt layout path) := by
  unfold openAt
  refine leads_files.bind fun files => (Leads.liftExcept _).bind fun package => ?_
  exact (Leads.lift _).seq (Leads.heap.bind fun heap => admits.add _)

theorem leads_close {id : Nat} (later : count ≤ id) : Leads course (close id) := by
  unfold close
  refine (leads_letter id).bind fun found => ?_
  exact ((admits.renders id later).package _).seq (admits.closePackage id later)

/-- What follows when a letter was opened works on a later letter. -/
theorem leads_openAt_bind {α : Type} {layout : Layout} {path : Path} {next : Nat → Work α}
    (follows : ∀ id, count ≤ id → Leads course (next id)) :
    Leads course (openAt layout path >>= next) := by
  intro store
  refine admits.given fun enough => ?_
  have opens : course.leads store.world _ := leads_openAt admits layout path store
  rw [M.runFrom_bind]
  rcases ran : (openAt layout path).runFrom store with ⟨fault | id, after⟩
  · rw [ran] at opens
    exact opens
  · rw [ran] at opens
    have later : count ≤ id := by
      rw [(openAt_eq_ok ran).1]
      exact enough
    exact course.trans opens (follows id later after)

/-- What is done with a letter that was opened to be enclosed. -/
theorem leads_enclosed {render : Renderer} {id : Nat} (later : count ≤ id)
    (renders : ∀ occasion, Leads course (render id occasion)) (around : Surroundings)
    (path data : Value) :
    Leads course (do
      report .debug .context
        ("Rendering partial " ++ (← nameOf id) ++ " for " ++ (← nameOf around.occasion.master))
      let data := match data with
        | .none => around.occasion.data
        | given => given
      afterwards (render id { around.occasion with data }) (close id)
      addEnclosure around.occasion.master (String.ofList (← textOf path))
        ((← letter id).value id)
      return Value.plain (← body id)) := by
  refine (leads_nameOf id).bind fun name => (leads_nameOf _).bind fun masterName => ?_
  refine (Leads.lift _).seq ((Leads.afterwards (renders _) (leads_close admits later)).seq ?_)
  refine (Leads.lift _).bind fun key => (leads_letter id).bind fun enclosed => ?_
  refine (admits.enclosure _ _ _).seq ?_
  exact (leads_body id).bind fun text => Leads.pure _

theorem leads_enclose {render : Renderer}
    (renders : ∀ id occasion, count ≤ id → Leads course (render id occasion))
    (around : Surroundings) (path data : Value) :
    Leads course (enclose render around path data) := by
  unfold enclose
  refine (leads_letter _).bind fun master => (leads_pathArgument path).bind fun file => ?_
  refine leads_openAt_bind admits fun id later => ?_
  exact leads_enclosed admits later (fun occasion => renders id occasion later) around path data

/-- A picture is registered through a letter as through the surroundings of its template. -/
theorem leads_addsPicture (id : Nat) (path : Value) :
    Leads course (do return Value.ofString (← addPicture id (← pathArgument path))) :=
  (leads_pathArgument path).bind fun file => (admits.picture id file).bind fun _ => Leads.pure _

/-- A letter is enclosed through a letter as through the surroundings of its template. -/
theorem leads_addsEnclosure (id : Nat) (key enclosed : Value) :
    Leads course (do
      addEnclosure id (String.ofList (← textOf key)) enclosed
      return Value.none) :=
  (Leads.lift _).bind fun _ => (admits.enclosure id _ enclosed).seq (Leads.pure _)

theorem leads_letterMethod (id : Nat) (name : String) (given : Given) :
    Leads course (letterMethod id name given) := by
  unfold letterMethod
  split
  · refine (leads_bindMethod _ _ _ _).bind fun bound => ?_
    split
    · exact leads_addsPicture admits _ _
    · exact Leads.pure _
  · refine (leads_bindMethod _ _ _ _).bind fun bound => ?_
    split
    · exact leads_addsEnclosure admits _ _ _
    · exact Leads.pure _
  · refine (leads_bindMethod _ _ _ _).discard.seq ?_
    exact (leads_body id).bind fun text => Leads.pure _

theorem leads_surroundingsMethod {render : Renderer}
    (renders : ∀ id occasion, count ≤ id → Leads course (render id occasion))
    (around : Surroundings) (name : String) (given : Given) :
    Leads course (surroundingsMethod render around name given) := by
  unfold surroundingsMethod
  split
  · refine (leads_bindMethod _ _ _ _).bind fun bound => ?_
    split
    · exact leads_addsPicture admits _ _
    · exact Leads.pure _
  · refine (leads_bindMethod _ _ _ _).bind fun bound => ?_
    split
    · exact leads_addsEnclosure admits _ _ _
    · exact Leads.pure _
  · refine (leads_bindMethod _ _ _ _).bind fun bound => ?_
    split
    · exact leads_showPicture admits _ _ _ _ _
    · exact Leads.pure _
  · refine (leads_bindMethod _ _ _ _).bind fun bound => ?_
    split
    · exact leads_enclose admits renders around _ _
    · exact Leads.pure _
  · refine (leads_bindMethod _ _ _ _).discard.seq ?_
    exact (leads_bindings _ _).bind fun bound => Leads.lift _

/-- What a course admits leads along it however deep letters enclose each other. -/
theorem leads_hostWithin (depth : Nat) (subject : Value) (name : String) (given : Given) :
    Leads course (hostWithin depth subject name given) := by
  induction depth generalizing subject name given with
  | zero => exact Leads.lift _
  | succ depth ih =>
    unfold hostWithin
    split
    · refine (Leads.lift _).bind fun found => ?_
      cases found with
      | none => exact Leads.lift _
      | some fields =>
        exact leads_surroundingsMethod admits
          (fun id occasion later => leads_processWith ih (admits.renders id later) occasion) _ _ _
    · exact leads_letterMethod admits _ _ _
    · exact Leads.lift _

end FormLetter.Work
