import FormLetter.Letter.Surroundings
import FormLetter.Proofs.Letter.Steps
import FormLetter.Proofs.Script.Course

/-!
# Where the work on a letter leads

Whatever is done with a letter, it comes down to a few kinds of changes of that letter, and to what
template code calls. So where each of these leads the workspace, rendering the letter leads it.
-/

namespace FormLetter.Work

open FormLetter.Script

variable {course : Course Workspace} {id : Nat}

/-! ## What only looks -/

theorem leads_workspace : Leads course workspace := Leads.of_same fun _ => rfl

theorem leads_files : Leads course files := Leads.of_same fun _ => rfl

theorem leads_letter (id : Nat) : Leads course (letter id) := Leads.of_same fun _ => rfl

theorem leads_nameOf (id : Nat) : Leads course (nameOf id) := Leads.of_same fun _ => rfl

theorem leads_pathArgument (value : Value) : Leads course (pathArgument value) := by
  unfold pathArgument
  split
  · exact Leads.pure _
  · refine Leads.ite ((leads_letter _).bind fun found => Leads.pure _) ?_
    exact (Leads.lift _).bind fun kind => Leads.lift _
  · exact (Leads.lift _).bind fun kind => Leads.lift _

theorem leads_enclosureOf (value : Value) : Leads course (enclosureOf value) := by
  unfold enclosureOf
  split
  · refine Leads.ite ((leads_letter _).bind fun found => Leads.pure _) (Leads.pure _)
  · exact (Leads.lift _).bind fun shown => Leads.pure _

theorem leads_bindings (id : Nat) (occasion : Occasion) : Leads course (bindings id occasion) := by
  unfold bindings
  refine (leads_letter id).bind fun template => (leads_letter _).bind fun master => ?_
  exact (Leads.lift _).bind fun surroundings => Leads.pure _

theorem leads_bindMethod (kind name : String) (given : Given) (parameters : List Parameter) :
    Leads course (bindMethod kind name given parameters) := Leads.lift _

theorem leads_body (id : Nat) : Leads course (body id) := by
  unfold body
  refine (leads_letter id).bind fun found => ?_
  split
  · exact Leads.throw _
  · exact (Leads.liftExcept _).bind fun document => Leads.pure _

theorem leads_partOf (id : Nat) (source name : String) : Leads course (partOf id source name) := by
  unfold partOf Work.source
  exact ((leads_letter id).bind fun found => (Leads.liftExcept _).bind fun text =>
    Leads.pure _).bind fun text => Leads.pure _

/-! ## Filling the package of a letter -/

/-- The changes that are made while a letter is compiled and its package is filled. -/
structure Fills (course : Course Workspace) (id : Nat) : Prop where
  package : ∀ change, Leads course (changePackage id change)
  rawStyles : ∀ text, Leads course (change id ({ · with rawStyles := some text }))
  rawContent : ∀ text, Leads course (change id ({ · with rawContent := some text }))

section

variable (fills : Fills course id)

include fills

theorem leads_compile : Leads course (compile id) := by
  unfold compile
  refine (leads_letter id).bind fun before => ?_
  refine (Leads.liftExcept _).bind fun bytes => (Leads.liftExcept _).bind fun styles => ?_
  refine (fills.rawStyles _).seq ?_
  refine (Leads.liftExcept _).bind fun bytes => (Leads.liftExcept _).bind fun content => ?_
  refine (fills.rawContent _).seq ((Leads.liftExcept _).bind fun sources => ?_)
  refine (Leads.forM fun line => Leads.lift _).seq ((fills.package _).seq ?_)
  exact (leads_nameOf id).bind fun name => (Leads.lift _).seq (Leads.pure _)

theorem leads_makeReady : Leads course (makeReady id) := by
  unfold makeReady
  refine (leads_letter id).bind fun before => Leads.ite ?_ ?_
  · exact (leads_nameOf id).bind fun name => Leads.lift _
  · exact (leads_compile fills).discard

theorem leads_prepare (occasion : Occasion) : Leads course (prepare id occasion) := by
  unfold prepare
  refine (leads_makeReady fills).seq ((leads_letter id).bind fun found => ?_)
  refine (leads_bindings id occasion).bind fun bound => (leads_nameOf id).bind fun name => ?_
  exact (Leads.lift _).seq ((leads_partOf id _ _).bind fun part => Leads.pure _)

theorem leads_save : Leads course (save id) := by
  unfold save
  refine (leads_letter id).bind fun before => ?_
  dsimp only
  split
  · exact Leads.throw _
  · refine (fills.package _).seq ?_
    split
    · exact Leads.pure _
    · exact fills.package _

theorem leads_register (added : List String) : Leads course (register id added) := by
  unfold register
  refine (leads_letter id).bind fun before => Leads.ite ?_ (Leads.pure _)
  refine (Leads.liftExcept _).bind fun bytes => (Leads.liftExcept _).bind fun written => ?_
  exact fills.package _

theorem leads_makePictureDirectory : Leads course (makePictureDirectory id) := by
  unfold makePictureDirectory
  exact (leads_letter id).bind fun before => Leads.ite (fills.package _) (Leads.pure _)

theorem leads_embedPicture (name : String) (path : Path) :
    Leads course (embedPicture id name path) := by
  unfold embedPicture
  refine (leads_letter id).bind fun before => leads_files.bind fun files => ?_
  exact (Leads.liftExcept _).bind fun package => (fills.package _).seq (Leads.pure _)

theorem leads_embedPictures : Leads course (embedPictures id) := by
  unfold embedPictures
  refine (leads_makePictureDirectory fills).seq ((leads_letter id).bind fun before => ?_)
  refine (Leads.mapM fun picture => leads_embedPicture fills _ _).bind fun added => ?_
  exact (leads_register fills added).seq (Leads.lift _)

theorem leads_addPictures : Leads course (addPictures id) := by
  unfold addPictures
  exact (leads_letter id).bind fun before => Leads.ite (Leads.pure _) (leads_embedPictures fills)

end

/-! ## Rendering a letter -/

section

variable {host : Host Workspace}
  (hosted : ∀ subject name given, Leads course (host subject name given))

include hosted

theorem leads_renderPart {keep : Part → Letter → Letter}
    (keeps : ∀ part, Leads course (change id (keep part))) (bound : List (String × Value))
    (part : Part) : Leads course (renderPart host bound keep id part) := by
  unfold renderPart
  refine (keeps part).seq ((Leads.process hosted bound part).bind fun rendered => ?_)
  exact (keeps rendered).seq (Leads.pure _)

theorem leads_renderStyles (fills : Fills course id)
    (styles : ∀ part, Leads course (change id (Letter.withStyles part))) (occasion : Occasion) :
    Leads course (renderStyles host id occasion) := by
  unfold renderStyles
  refine (leads_prepare fills occasion).bind fun prepared => ?_
  refine (leads_renderPart hosted styles _ _).bind fun rendered => ?_
  exact (leads_letter id).bind fun found => (leads_partOf id _ _).bind fun content => Leads.pure _

end

theorem leads_mergeEnclosures
    (styles : ∀ part, Leads course (change id (Letter.withStyles part))) :
    Leads course (mergeEnclosures id) := by
  unfold mergeEnclosures
  refine leads_workspace.bind fun workspace => ?_
  split
  · exact Leads.pure _
  · exact (Leads.lift _).bind fun merged => styles merged

theorem leads_addEnclosed
    (styles : ∀ part, Leads course (change id (Letter.withStyles part))) :
    Leads course (addEnclosed id) := by
  unfold addEnclosed
  refine (leads_letter id).bind fun before => ?_
  exact Leads.ite (Leads.pure _) (leads_mergeEnclosures styles)

/-- The changes that are made while a letter is rendered. -/
structure Renders (course : Course Workspace) (id : Nat) : Prop extends Fills course id where
  styles : ∀ part, Leads course (change id (Letter.withStyles part))
  content : ∀ part, Leads course (change id (Letter.withContent part))
  bare : Leads course (change id Letter.bare)

theorem leads_addRegistered (fills : Fills course id)
    (styles : ∀ part, Leads course (change id (Letter.withStyles part))) :
    Leads course (addRegistered id) := by
  unfold addRegistered
  exact (leads_addEnclosed styles).seq (leads_addPictures fills)

theorem leads_renderParts {host : Host Workspace}
    (hosted : ∀ subject name given, Leads course (host subject name given))
    (renders : Renders course id) (occasion : Occasion) :
    Leads course (renderParts host id occasion) := by
  unfold renderParts
  refine (leads_renderStyles hosted renders.toFills renders.styles occasion).bind fun begun => ?_
  exact (leads_renderPart hosted renders.content _ _).bind fun content => Leads.pure _

theorem leads_processWith {host : Host Workspace}
    (hosted : ∀ subject name given, Leads course (host subject name given))
    (renders : Renders course id) (occasion : Occasion) :
    Leads course (processWith host id occasion) := by
  unfold processWith fill
  refine Leads.afterwards ((leads_renderParts hosted renders occasion).seq ?_) renders.bare
  exact leads_addRegistered renders.toFills renders.styles

end FormLetter.Work
