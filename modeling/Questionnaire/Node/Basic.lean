import Questionnaire.Label
import Questionnaire.Node.Kind
import Questionnaire.Numeric.Binary64

/-!
# Nodes

A node is one step of a questionnaire: a question, a request for documents, a piece of internal
work, or a mark that shapes the questionnaire. A node may stand for a step, or a field of a step,
of the flat intake form; the gates of the form then decide whether it is shown.

Nodes are ordered by a `SortKey`: an order number where one is set, else the height on the editor's
canvas. Keys of both kinds are compared as numbers.
-/

namespace Questionnaire

-- Powers are those of the core library, whatever other powers are known.
attribute [local instance (10000)] instPowNat

/-- An option of a choice, or a row or column of a grid. -/
structure Choice where
  /-- The value kept in responses. -/
  id : String
  /-- The text shown to the client. -/
  label : String
deriving DecidableEq, Repr

/-- What uploads a node accepts. -/
structure FileRules where
  /-- The least number of files. -/
  minFiles : Option UInt32 := none
  /-- The accepted media types; an empty list accepts all. -/
  allowedMime : List String := []
  /-- The greatest size of one file. -/
  maxSizeMb : Option Binary64 := none
deriving DecidableEq, Repr

/-- A place on the editor's canvas. -/
structure CanvasPosition where
  /-- The distance from the left. -/
  x : Binary64
  /-- The distance from the top. -/
  y : Binary64
deriving DecidableEq, Repr

/-- The place on the canvas with these whole coordinates. -/
def CanvasPosition.ofNats (x y : Nat) : CanvasPosition :=
  { x := .ofNat x, y := .ofNat y }

/-- One step of a questionnaire. -/
structure Node where
  /-- The name by which edges and responses refer to the node. -/
  id : String
  /-- What the node does. -/
  kind : NodeKind
  /-- The title shown to the client. -/
  title : String := ""
  /-- Help for the client. -/
  helpText : Option String := none
  /-- Why the question is asked. -/
  whyWeAsk : Option String := none
  /-- The hint inside an empty input. -/
  placeholder : Option String := none
  /-- Whether a client may ever see the node. -/
  clientVisible : Bool := false
  /-- The filing labels that the node feeds. -/
  labels : List Label := []
  /-- Tags of the firm's own. -/
  customTags : List String := []
  /-- How an answer is collected. -/
  inputType : Option InputType := none
  /-- Whether the node has to be answered or skipped. -/
  required : Bool := false
  /-- Whether the workflow waits for an answer. -/
  blocksWorkflow : Bool := false
  /-- The options of a choice. -/
  options : List Choice := []
  /-- The rows of a grid. -/
  rows : List Choice := []
  /-- The columns of a grid. -/
  columns : List Choice := []
  /-- What uploads are accepted. -/
  fileRules : Option FileRules := none
  /-- The id of the header of the section that the node is shown under. -/
  sectionId : Option String := none
  /-- The place inside the section. -/
  order : Option UInt32 := none
  /-- The place of a section among the sections. -/
  sectionOrder : Option UInt32 := none
  /-- The step of the intake form that the node stands for. -/
  formStepId : Option String := none
  /-- The field of the intake form that the node stands for. -/
  formFieldId : Option String := none
  /-- The place on the canvas. -/
  position : Option CanvasPosition := none
deriving DecidableEq, Repr

/-- What nodes are ordered by. -/
inductive SortKey where
  /-- A place given by an order number. -/
  | order (value : UInt32)
  /-- A place given by the height on the canvas. -/
  | height (value : Binary64)
deriving DecidableEq, Repr

namespace SortKey

/-- The place of a key in the order of all keys, in which order numbers compare as integers. -/
def rank : SortKey → Int
  | order value => (value.toNat : Int) * 2 ^ (1075 : Nat)
  | height value => value.rank

/-- The key as a binary64 number. -/
def toBinary64 : SortKey → Binary64
  | order value => .ofNat value.toNat
  | height value => value

/-- The key of an optional order number, else of an optional place on the canvas, else zero. -/
def choose (number : Option UInt32) (position : Option CanvasPosition) : SortKey :=
  match number, position with
  | some number, _ => order number
  | none, some position => height position.y
  | none, none => order 0

end SortKey

namespace Node

/-- A node with the defaults of its kind. -/
def ofKind (kind : NodeKind) (id : String) : Node where
  id
  kind
  title := kind.defaultTitle
  clientVisible := kind != .start && kind != .finish && kind != .note
  labels := if kind.isAnswerable then [.other] else []
  inputType := kind.defaultInputType
  required := kind.isAnswerable

/-- The key of the node inside its section. -/
def itemKey (node : Node) : SortKey :=
  .choose node.order node.position

/-- The key of the node among the sections. -/
def sectionKey (node : Node) : SortKey :=
  .choose (node.sectionOrder <|> node.order) node.position

/-- Whether a client may be asked for something by this node. -/
def isClientStep (node : Node) : Bool :=
  node.clientVisible && !node.kind.isStructural

end Node

end Questionnaire
