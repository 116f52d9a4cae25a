import LayerView.Capture
import LayerView.Event
import LayerView.Naming.Registry
import LayerView.Text.Lines
import LayerView.Text.WordChar
import LayerView.Variable

/-!
# The view class

An exported drawing is a class of static functions.  To become a view it extends a view class, its
functions become methods, and the body gains the declarations of its properties, initialisers, and
the methods through which a view is drawn and measured.
-/

namespace LayerView.ViewClass

open LayerView.Text

/-! ## From static functions to methods -/

/-- The name of a drawing class whose definition starts the text. -/
def nameAt? (t : Text) : Option Text :=
  if "class ".toList.isPrefixOf t then
    let rest := t.drop 6
    let name := rest.takeWhile isWordChar
    if !name.isEmpty && ": NSObject".toList.isPrefixOf (rest.drop name.length) then some name
    else none
  else none

/-- The name of the first drawing class of a source. -/
def name? : Text → Option Text
  | [] => none
  | c :: t =>
    match nameAt? (c :: t) with
    | some name => some name
    | none => name? t

/-- Turn static functions into methods, drop the class name before calls, and extend `baseType`. -/
def rebase (source baseType : Text) : Text :=
  let methods :=
    match name? source with
    | some name =>
      -- The name and its dot are dropped wherever they stand, also at the end of a longer word.
      replaceAll (name ++ ['.']) [] (replaceAll "class func".toList "func".toList source)
    | none => source
  replaceAll ": NSObject \x7b".toList (": ".toList ++ baseType ++ " \x7b".toList) methods

/-! ## Blocks at the top of the body -/

/-- Whether a line opens the definition of a class. -/
def opensClass (line : Text) : Bool := "class ".toList.isPrefixOf line

/-- Put a block below the first line with a property. -/
def insertBelow (p : Text → Bool) (block : List Text) : List Text → List Text
  | [] => []
  | l :: ls => if p l then l :: (block ++ ls) else l :: insertBelow p block ls

/-- Put a block at the top of the body of the first class of a source. -/
def insertInBody (source : Text) (block : List Text) : Text :=
  joinLines (insertBelow opensClass block (lines source))

/-- The lines of a block some of whose given lines may hold several. -/
def blockLines (ls : List Text) : List Text := lines (joinLines ls)

/-- The initialisers of a view, which set its background. -/
def initializers (background : Text) : List Text :=
  blockLines
    ["".toList,
     "".toList,
     "    func commonInit() \x7b".toList,
     "        backgroundColor = ".toList ++ background,
     "    \x7d".toList,
     "".toList,
     "    override init(frame: CGRect) \x7b".toList,
     "        super.init(frame: frame)".toList,
     "        commonInit()".toList,
     "    \x7d".toList,
     "".toList,
     "    required init?(coder: NSCoder) \x7b".toList,
     "        super.init(coder: coder)".toList,
     "        commonInit()".toList,
     "    \x7d".toList]

/-- Give a class the initialisers of a view. -/
def addInitializers (source background : Text) : Text :=
  -- The declarations go in later by the same rule, and so end up above these.
  insertInBody source (initializers background)

/-! ## Declarations -/

/-- Declarations for which a name was granted, and the registry afterwards. -/
structure Granted where
  declarations : List Declaration
  registry : Naming.Registry
deriving DecidableEq, Repr

/-- Ask for the names of declarations in order and keep those whose name is granted. -/
def grant (r : Naming.Registry) : List Declaration → Granted
  | [] => ⟨[], r⟩
  | d :: ds =>
    -- A declaration whose name is refused is left out; the registry keeps note of it.
    let (ok, r') := r.claim d.name
    let rest := grant r' ds
    if ok then { rest with declarations := d :: rest.declarations } else rest

/-- The declarations of variables in order, as far as their names are not issued yet. -/
def grantAll (r : Naming.Registry) (vs : List Variable) : Granted :=
  grant r (vs.flatMap Variable.declarations)

/-- Write declarations at the top of the body. -/
def declare (source : Text) (ds : List Declaration) : Text :=
  insertInBody source (ds.map Declaration.line)

/-! ## Drawing and measuring -/

/-- Around the end of the name of a draw function that takes a frame. -/
def drawFunction : Delimited := ⟨"func draw".toList, "(frame targetFrame: ".toList⟩

/-- Around the frame in which the drawing has its own size. -/
def nativeRect : Delimited := ⟨"targetFrame: CGRect = ".toList, ", resizing".toList⟩

/-- The draw function on a line, and the native rectangle of the drawing. -/
structure DrawFunction where
  name : Text
  rect : Text
deriving DecidableEq, Repr

/-- The draw function that a line introduces. -/
def drawFunction? (line : Text) : Option DrawFunction := do
  let function ← drawFunction.find? line
  let rect ← nativeRect.find? line
  return ⟨function.text, rect.text⟩

/-- The body of a method that scales a size to a given width. -/
def sizeBody (rect : Text) : List Text :=
  ["        // scale the size to the given width".toList,
   "        let nativeRect = ".toList ++ rect,
   "        let aspect = size.width / nativeRect.width".toList,
   "        let height = nativeRect.height * aspect".toList,
   "".toList,
   "        return CGSize(width: size.width, height: height)".toList,
   "    \x7d".toList,
   "".toList]

/-- The methods by which a view draws itself, converts rectangles and tells its size. -/
def drawEntry (f : DrawFunction) : List Text :=
  blockLines
    (["    override func draw(_ rect: CGRect) \x7b".toList,
      "        super.draw(rect)".toList,
      "        draw".toList ++ f.name ++ "(frame: rect)".toList,
      "    \x7d".toList,
      "".toList,
      "    func convertRectToViewSpace(_ rect: CGRect, context: CGContext) -> CGRect \x7b".toList,
      "        return context.convertToDeviceSpace(rect).applying(CGAffineTransformMakeScale(".toList
        ++ "1 / UIScreen.main.scale, 1 / UIScreen.main.scale))".toList,
      "    \x7d".toList,
      "".toList,
      "    override func sizeThatFits(_ size: CGSize) -> CGSize \x7b".toList] ++ sizeBody f.rect ++
     -- The class tells the size as well, for use before there is a view.
     ["    class func sizeThatFits(_ size: CGSize) -> CGSize \x7b".toList] ++ sizeBody f.rect ++
     ["".toList])

/-- Put the block that a line calls for above the first line that calls for one. -/
def insertAbove (block? : Text → Option (List Text)) : List Text → List Text
  | [] => []
  | l :: ls =>
    match block? l with
    | some block => block ++ l :: ls
    | none => l :: insertAbove block? ls

/-- Give a class the methods of a view, above its first draw function that takes a frame. -/
def addDrawEntry (source : Text) : Text :=
  joinLines (insertAbove (fun l => (drawFunction? l).map drawEntry) (lines source))

/-- The draw function above which the methods of a view go. -/
def firstDrawFunction? (source : Text) : Option DrawFunction :=
  (lines source).findSome? drawFunction?

end LayerView.ViewClass
