import Questionnaire.Graph.Basic
import Questionnaire.Time.Timestamp

/-!
# Templates

A template is a questionnaire with its history of versions. The history only grows: an edit of an
active version that is published lands in a new draft at the end, and publishing appends a published
copy of the active graph. The active version is named by its number. A look-up by number takes the
first version that has it, and a number that no version has leaves the template without an active
graph.

A new entry is numbered one past the highest number. The addition is checked: after the last number
of 32 bits there is no next one, and the program stops in the middle of the edit or publication.
What comes of that is written as no result at all.
-/

namespace Questionnaire

/-- The family of a template. -/
inductive TemplateKind where
  /-- The guided intake. -/
  | intake
  /-- A questionnaire of the firm's own. -/
  | custom
deriving DecidableEq, Repr

/-- Who made a template. -/
inductive Creator where
  /-- It came with the product. -/
  | system
  /-- The firm. -/
  | attorney
deriving DecidableEq, Repr

/-- Who published a version. -/
inductive Publisher where
  /-- An attorney. -/
  | attorney
  /-- The staff of the firm. -/
  | staff
  /-- The seeding of the store. -/
  | system
deriving DecidableEq, Repr

/-- One entry in the history of a template. -/
structure TemplateVersion where
  /-- The number by which the version is referred to. -/
  number : UInt32
  /-- The questionnaire. -/
  graph : Graph
  /-- When the version was published; a version without this is a draft. -/
  publishedAt : Option Timestamp := none
  /-- Who published it. -/
  publishedBy : Option Publisher := none
  /-- What the publisher noted. -/
  notes : Option String := none
deriving DecidableEq, Repr

/-- A questionnaire with its history. -/
structure Template where
  /-- The name of the template. -/
  id : String
  /-- The title. -/
  title : String
  /-- What the questionnaire is for. -/
  description : String := ""
  /-- Who may use it. -/
  scope : String := "firm"
  /-- The family. -/
  kind : TemplateKind
  /-- Whether it is the one that comes with the product. -/
  isDefault : Bool := false
  /-- Who made it. -/
  createdBy : Creator
  /-- When it was made. -/
  createdAt : Timestamp
  /-- When it was changed last. -/
  updatedAt : Timestamp
  /-- The number of the active version. -/
  activeVersion : UInt32
  /-- The history, oldest first. -/
  versions : List TemplateVersion
  /-- Whether it is hidden from listings. -/
  archived : Bool := false
deriving DecidableEq, Repr

/-- Where an edit of a graph went. -/
inductive GraphEdit where
  /-- The active draft now has the new graph. -/
  | inPlace (version : UInt32)
  /-- The active version was published, and a new draft has the new graph. -/
  | bumped (previous next : UInt32)
  /-- No version has the active number, and nothing was written. -/
  | unresolved (active : UInt32)
deriving DecidableEq, Repr

/-- Every template kind. -/
def TemplateKind.all : List TemplateKind := [intake, custom]

/-- The name of the kind in documents. -/
def TemplateKind.name : TemplateKind → String
  | intake => "intake"
  | custom => "custom"

/-- Every creator. -/
def Creator.all : List Creator := [system, attorney]

/-- The name of the creator in documents. -/
def Creator.name : Creator → String
  | system => "system"
  | attorney => "attorney"

/-- Every publisher. -/
def Publisher.all : List Publisher := [attorney, staff, system]

/-- The name of the publisher in documents. -/
def Publisher.name : Publisher → String
  | attorney => "attorney"
  | staff => "staff"
  | system => "system"

/-- The version that holds the new graph, if the edit was made. -/
def GraphEdit.version? : GraphEdit → Option UInt32
  | inPlace version => some version
  | bumped _ next => some next
  | unresolved _ => none

namespace TemplateVersion

/-- A version that may still be edited. -/
def draft (number : UInt32) (graph : Graph) : TemplateVersion :=
  { number, graph }

/-- A version that stays as it is. -/
def published (number : UInt32) (graph : Graph) (publisher : Publisher) (moment : Timestamp)
    (notes : Option String) : TemplateVersion :=
  { number, graph, publishedAt := some moment, publishedBy := some publisher, notes }

/-- Whether the version is published. -/
def isPublished (version : TemplateVersion) : Bool :=
  version.publishedAt.isSome

end TemplateVersion

namespace Template

/-- A template whose history is one version, which is active. -/
def ofVersion (id title : String) (kind : TemplateKind) (createdBy : Creator)
    (initial : TemplateVersion) (now : Timestamp) : Template where
  id
  title
  kind
  createdBy
  createdAt := now
  updatedAt := now
  activeVersion := initial.number
  versions := [initial]

/-- The first version with the number. -/
def version? (template : Template) (number : UInt32) : Option TemplateVersion :=
  template.versions.find? fun version => version.number == number

/-- The active version, if some version has the active number. -/
def active? (template : Template) : Option TemplateVersion :=
  template.version? template.activeVersion

/-- The graph of the active version. -/
def activeGraph? (template : Template) : Option Graph :=
  template.active?.map TemplateVersion.graph

/-- The highest number in the history; zero if the history is empty. -/
def latestNumber (template : Template) : UInt32 :=
  template.versions.foldl (fun highest version => max highest version.number) 0

/-- The number of the next version, one past the highest, if that is a number of 32 bits. -/
def nextNumber? (template : Template) : Option UInt32 :=
  if template.latestNumber.toNat + 1 < UInt32.size then some (template.latestNumber + 1) else none

/-- Whether the template is copied before it is edited. -/
def isSystemOwned (template : Template) : Bool :=
  template.isDefault || template.createdBy == .system

/-- Makes the version with the number active, and tells whether there is one. -/
def activate (template : Template) (number : UInt32) : Bool × Template :=
  if (template.version? number).isSome then (true, { template with activeVersion := number })
  else (false, template)

/-- Appends a version and makes it active. -/
def append (template : Template) (version : TemplateVersion) (now : Timestamp) : Template :=
  { template with
    versions := template.versions ++ [version]
    activeVersion := version.number
    updatedAt := now }

/-- Gives the active version a new graph. A published version stays, and a new draft is appended in
its place, unless there is no next number; without an active version nothing changes. -/
def editGraph? (template : Template) (graph : Graph) (now : Timestamp) :
    Option (GraphEdit × Template) :=
  let active := template.activeVersion
  match template.active? with
  | none => some (.unresolved active, template)
  | some current =>
    if current.isPublished then
      template.nextNumber?.map fun next =>
        (.bumped active next, template.append (.draft next graph) now)
    else
      some (.inPlace active,
        { template with
          versions :=
            modifyFirst (fun version => version.number == active)
              (fun version => { version with graph }) template.versions
          updatedAt := now })

/-- Appends a published copy of the active graph, and gives its number, unless there is no next
number; without an active version nothing changes. -/
def publish? (template : Template) (publisher : Publisher) (notes : Option String)
    (now : Timestamp) : Option (Option UInt32 × Template) :=
  match template.activeGraph? with
  | none => some (none, template)
  | some graph =>
    template.nextNumber?.map fun next =>
      (some next, template.append (.published next graph publisher now notes) now)

end Template

end Questionnaire
