import LayerView.Conversion
import LayerView.Pair.DrawCall
import LayerView.Pair.Paint

/-!
# Converting an Objective-C pair

A header and its implementation become a view together.  Class methods become instance methods, the
colors of layers become properties, and the implementation gains an initialiser, a class extension
for the hidden properties, and, when it has a draw call, the methods to draw and measure.  All of
these are put next to the line that opens the implementation or the initialiser.
-/

namespace LayerView

/-- A header and its implementation. -/
structure SourcePair where
  header : Text
  implementation : Text
deriving DecidableEq, Repr

/-- A pair turned into a view. -/
structure PairConversion where
  pair : SourcePair
  /-- One declaration for each color property, by name. -/
  declarations : List Declaration
deriving DecidableEq, Repr

namespace Pair

open LayerView.Text

/-! ## Methods -/

/-- Turn class methods into instance methods; `start` tells whether a line starts here. -/
def instanceMethodsFrom (start : Bool) : Text → Text
  | [] => []
  | c :: t =>
    (if start && "+ (".toList.isPrefixOf (c :: t) then '-' else c) ::
      instanceMethodsFrom (c == '\n') t

/-- Turn the class methods of a code into instance methods. -/
def instanceMethods (code : Text) : Text := instanceMethodsFrom true code

/-! ## Places -/

/-- How an implementation is opened. -/
def implementationKeyword : Text := "@implementation ".toList

/-- The line end after an opened implementation and its class name, and the opening itself. -/
def implementationOpening : Pattern := fun t => do
  let rest ← skip? implementationKeyword t
  let (name, rest) ← run? isWordChar rest
  -- Nothing may follow the class name, so a category is no opening.
  let ending ← lineEnd? rest
  return implementationKeyword.length + name.length + ending

/-- The class name in the opening of an implementation. -/
def classNameOf (opening : Text) : Text :=
  (opening.drop implementationKeyword.length).takeWhile isWordChar

/-- The end of a line on which a class extends `baseType`. -/
def extensionOf (baseType : Text) : Pattern := fun t => do
  let rest ← skip? (": ".toList ++ baseType) t
  let ending ← lineEnd? rest
  return (": ".toList ++ baseType).length + ending

/-- How the initialiser starts. -/
def initializerOpening : Pattern := fun t =>
  let word := "- (instancetype)initWithFrame".toList
  (skip? word t).map fun _ => word.length

/-- Put a block after the first place at which a pattern fits. -/
def insertAfter (fit : Pattern) (block code : Text) : Text :=
  match breakAt? fit code with
  | some (before, hit, after) => before ++ hit ++ "\n\n".toList ++ block ++ "\n".toList ++ after
  | none => code

/-- Put a block before the first place at which a pattern fits. -/
def insertBefore (fit : Pattern) (block code : Text) : Text :=
  match breakAt? fit code with
  | some (before, hit, after) => before ++ "\n".toList ++ block ++ "\n\n".toList ++ hit ++ after
  | none => code

/-! ## Blocks -/

/-- The lines of the initialiser that set the background and the colors. -/
def assignments (ds : List Declaration) (background : Text) : Text :=
  "        self.backgroundColor = ".toList ++ background ++ ";\n".toList ++
    ds.flatMap fun d => "        _".toList ++ d.name ++ " = ".toList ++ d.value ++ ";\n".toList

/-- The initialiser of a view. -/
def initializer (ds : List Declaration) (background : Text) : Text :=
  "- (instancetype)initWithFrame:(CGRect)frame \x7b\n".toList ++
  "    self = [super initWithFrame:frame];\n".toList ++
  "    if (self) \x7b\n".toList ++
  assignments ds background ++
  "    \x7d\n\n    return self;\n\x7d".toList

/-- The property declarations of a visibility. -/
def properties (ds : List Declaration) (v : Visibility) : Text :=
  (ds.filter (·.visibility = v)).flatMap fun d =>
    "@property (nonatomic) UIColor *".toList ++ d.name ++ ";\n".toList

/-- The class extension with the hidden properties. -/
def classExtension (ds : List Declaration) (className : Text) : Text :=
  "@interface ".toList ++ className ++ "()\n".toList ++ properties ds .hidden ++ "\n@end\n".toList

/-- The method by which a view draws itself. -/
def drawRect (call : DrawCall) : Text :=
  "- (void)drawRect:(CGRect)rect \x7b\n    [super drawRect:rect];\n    [self ".toList ++
  call.method ++ "rect resizing:".toList ++ call.resizing ++ "];\n\x7d".toList

/-- The method by which a view tells its size. -/
def sizeThatFits (call : DrawCall) : Text :=
  "- (CGSize)sizeThatFits:(CGSize)size \x7b\n    CGSize nativeSize = CGSizeMake(".toList ++
  call.width ++ ", ".toList ++ call.height ++ ");\n".toList ++
  "    CGFloat aspect = size.width / nativeSize.width;\n".toList ++
  "    CGFloat height = nativeSize.height * aspect;\n\n".toList ++
  "    return CGSizeMake(size.width, height);\n\x7d".toList

/-! ## The conversion -/

/-- An implementation with instance methods and with properties for its colors. -/
def recolored (implementation : Text) : Text :=
  let code := instanceMethods implementation
  replaceColors (colorMatches code) code

/-- The declarations for the colors of an implementation. -/
def declarations (implementation : Text) : List Declaration :=
  declarationsOf (colorMatches (instanceMethods implementation))

/-- A recolored implementation with its initialiser and class extension. -/
def withInitializer (o : Options) (className : Text) (ds : List Declaration) (code : Text) : Text :=
  -- What goes in below the opening leaves it the first place at which the pattern fits.
  insertBefore implementationOpening (classExtension ds className)
    (insertAfter implementationOpening (initializer ds o.background) code)

/-- An implementation with the methods that a draw call gives, if there is one. -/
def withDrawing (call? : Option DrawCall) (code : Text) : Text :=
  match call? with
  | some call =>
    -- Each goes right before the initialiser, so the one put in last stands below the other.
    insertBefore initializerOpening (sizeThatFits call)
      (insertBefore initializerOpening (drawRect call) code)
  | none => code

/-- A header whose class extends the base type and declares the visible properties. -/
def convertHeader (o : Options) (ds : List Declaration) (header : Text) : Text :=
  -- By now the class extends the base type, and the line that says so is the place.
  insertAfter (extensionOf o.baseType) (properties ds .visible)
    (instanceMethods (replaceAll "NSObject".toList o.baseType header))

/-- Convert a pair whose implementation opens with the given class name. -/
def run (o : Options) (className : Text) (p : SourcePair) : Reported PairConversion :=
  let ds := declarations p.implementation
  let code := withInitializer o className ds (recolored p.implementation)
  let call? := drawCall? code
  { value :=
      { pair :=
          { header := convertHeader o ds p.header
            implementation := withDrawing call? code }
        declarations := ds }
    events :=
      .pairColorsFound ds.length className ::
        (if call?.isNone then [.drawCallMissing className] else []) }

end Pair

/-- Convert a pair under options that have to be for Objective-C.  There is no result without an
opened implementation. -/
def convertPair (o : Options) (p : SourcePair) : Reported (Option PairConversion) :=
  match o.dialect with
  | .swift => { value := none, events := [.dialectUnsupported o.dialect] }
  | .objc =>
    match Text.breakAt? Pair.implementationOpening p.implementation with
    | some (_, opening, _) =>
      let r := Pair.run o (Pair.classNameOf opening) p
      { value := some r.value, events := r.events }
    | none => { value := none, events := [.implementationMissing] }

end LayerView
