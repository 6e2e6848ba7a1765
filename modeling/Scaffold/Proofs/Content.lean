import Scaffold.Plan
import Scaffold.Proofs.Text.Lines

/-! The text of every generated file, written down as the lines it consists of. Nothing here reads a
template or looks a value up: a line is put together from its words and the spellings of the names, and
the two shapes of a class differ in the lines for which `Shape.choose` stands. -/

namespace Scaffold

/-- What stands in the files of a class with that shape. -/
def Shape.choose {α : Type} (shape : Shape) (root : α) (derived : ClassName → α) : α :=
  match shape with
  | .root => root
  | .derived base => derived base

@[simp] theorem Shape.choose_root {α : Type} (root : α) (derived : ClassName → α) :
    Shape.root.choose root derived = root := rfl

@[simp] theorem Shape.choose_derived {α : Type} (base : ClassName) (root : α) (derived : ClassName → α) :
    (Shape.derived base).choose root derived = derived base := rfl

namespace ClassName

/-- The include guard of the public header. -/
def guard (profile : Profile) (name : ClassName) : Text :=
  profile.guardPrefix ++ "_" ++ name.upper ++ "_H"

/-- The include guard of the private header. -/
def privateGuard (profile : Profile) (name : ClassName) : Text :=
  profile.guardPrefix ++ "_" ++ name.upper ++ "PRIVATE_H"

/-- The type that holds the private state of the class. -/
def privateType (name : ClassName) : Text := name.pascal ++ "Private"

end ClassName

namespace Content

/-- The license preamble, for the digits of a year. -/
def license (profile : Profile) (year : Text) : List Text :=
  ["/*",
   " * Copyright " ++ year ++ " " ++ profile.copyrightHolder,
   " *",
   " * This file is part of " ++ profile.nameSpace ++ ".",
   " *",
   " * " ++ profile.nameSpace ++ " is free software: you can redistribute it and/or modify",
   " * it under the terms of the GNU Lesser General Public License as",
   " * published by the Free Software Foundation, either version 3 of",
   " * the License, or (at your option) any later version.",
   " *",
   " * " ++ profile.nameSpace ++ " is distributed in the hope that it will be useful,",
   " * but WITHOUT ANY WARRANTY; without even the implied warranty of",
   " * MERCHANTABILITY or FITNESS FOR A PARTICULAR PURPOSE.  See the",
   " * GNU Lesser General Public License for more details.",
   " *",
   " * You should have received a copy of the GNU General Public License",
   " * along with " ++ profile.nameSpace ++ ".  If not, see <http://www.gnu.org/licenses/>.",
   " */",
   ""]

/-- The header that users of the class include. -/
def publicHeader (profile : Profile) (name : ClassName) (shape : Shape) : List Text :=
  ["#ifndef " ++ name.guard profile,
   "#define " ++ name.guard profile,
   "",
   "#include <QObject>",
   "#include <QScopedPointer>",
   "#include <QtGlobal>",
   ""] ++
  shape.choose [] (fun base => ["#include \"" ++ profile.nameSpace ++ "/" ++ base.pascal ++ "\""]) ++
  ["#include \"" ++ profile.nameSpace ++ "/" ++ profile.globalHeader ++ "\"",
   "",
   "namespace " ++ profile.nameSpace ++ " \x7b",
   "",
   "class " ++ name.privateType ++ ";",
   "",
   shape.choose
    ("class " ++ profile.exportMacro ++ " " ++ name.pascal ++ " : public " ++ profile.rootBase)
    (fun base => "class " ++ profile.exportMacro ++ " " ++ name.pascal ++ " : public " ++ base.pascal),
   "\x7b",
   "    Q_OBJECT",
   "public:",
   "",
   "    explicit " ++ name.pascal ++ "(QObject* parent = nullptr);",
   "    ~" ++ name.pascal ++ "() override;",
   "",
   "protected:",
   "    explicit " ++ name.pascal ++ "(" ++ name.privateType ++ "* d, QObject* parent = nullptr);",
   ""] ++
  shape.choose ["    QScopedPointer<" ++ name.privateType ++ "> d_ptr;"] (fun _ => []) ++
  ["    Q_DECLARE_PRIVATE(" ++ name.pascal ++ ");",
   "\x7d;",
   "",
   "\x7d // namespace " ++ profile.nameSpace,
   "",
   "#endif // " ++ name.guard profile]

/-- The header without an extension that leads to the public one. -/
def includeShim (name : ClassName) : List Text := ["#include \"" ++ name.lower ++ ".h\""]

/-- The members of the public class. -/
def publicSource (profile : Profile) (name : ClassName) (shape : Shape) : List Text :=
  ["#include \"../inc/" ++ profile.nameSpace ++ "/" ++ name.lower ++ ".h\"",
   "",
   "#include \"" ++ name.lower ++ "private.h\"",
   "",
   "namespace " ++ profile.nameSpace ++ " \x7b",
   "",
   shape.choose
    (name.pascal ++ "::" ++ name.pascal ++ "(QObject* parent) : " ++ profile.rootBase
      ++ "(parent), d_ptr(new " ++ name.privateType ++ "(this)) \x7b\x7d")
    (fun base => name.pascal ++ "::" ++ name.pascal ++ "(QObject* parent) : " ++ base.pascal
      ++ "(new " ++ name.privateType ++ "(this), parent) \x7b\x7d"),
   "",
   name.pascal ++ "::~" ++ name.pascal ++ "() \x7b\x7d",
   "",
   shape.choose
    (name.pascal ++ "::" ++ name.pascal ++ "(" ++ name.privateType ++ "* d, QObject* parent) : "
      ++ profile.rootBase ++ "(parent), d_ptr(d) \x7b\x7d")
    (fun base => name.pascal ++ "::" ++ name.pascal ++ "(" ++ name.privateType
      ++ "* d, QObject* parent) : " ++ base.pascal ++ "(d, parent) \x7b\x7d"),
   "",
   "\x7d // namespace " ++ profile.nameSpace]

/-- The header of the private state of the class. -/
def privateHeader (profile : Profile) (name : ClassName) (shape : Shape) : List Text :=
  ["#ifndef " ++ name.privateGuard profile,
   "#define " ++ name.privateGuard profile,
   ""] ++
  shape.choose [] (fun base => ["#include \"" ++ base.lower ++ "private.h\""]) ++
  ["#include \"" ++ profile.nameSpace ++ "/" ++ name.lower ++ ".h\"",
   "",
   "namespace " ++ profile.nameSpace ++ " \x7b",
   "",
   shape.choose ("class " ++ name.privateType)
    (fun base => "class " ++ name.privateType ++ " : public " ++ base.privateType),
   "\x7b",
   "public:",
   "    explicit " ++ name.privateType ++ "(" ++ name.pascal ++ "* q);",
   ""] ++
  shape.choose ["    " ++ name.pascal ++ " *q_ptr;"] (fun _ => []) ++
  ["    Q_DECLARE_PUBLIC(" ++ name.pascal ++ ");",
   "\x7d;",
   "",
   "\x7d // namespace " ++ profile.nameSpace,
   "",
   "#endif // " ++ name.privateGuard profile]

/-- The members of the private class. -/
def privateSource (profile : Profile) (name : ClassName) (shape : Shape) : List Text :=
  ["#include \"" ++ name.lower ++ "private.h\"",
   "",
   "namespace " ++ profile.nameSpace ++ " \x7b",
   "",
   shape.choose
    (name.privateType ++ "::" ++ name.privateType ++ "(" ++ name.pascal ++ "* q) : q_ptr(q)")
    (fun base => name.privateType ++ "::" ++ name.privateType ++ "(" ++ name.pascal ++ "* q) : "
      ++ base.privateType ++ "(q)"),
   "\x7b",
   "\x7d",
   "",
   "\x7d // namespace " ++ profile.nameSpace]

/-- The project file of the test of the class. -/
def testProject (name : ClassName) : List Text :=
  ["TESTNAME = " ++ name.lower,
   "include(../test.pri)"]

/-- The build file that registers the test. -/
def testRegistration (profile : Profile) (name : ClassName) : List Text :=
  [profile.testRegistrationMacro ++ "(" ++ name.lower ++ ")"]

/-- The empty test of the class. -/
def testSource (profile : Profile) (name : ClassName) : List Text :=
  ["#include <QtTest>",
   "",
   "// add necessary includes here",
   "#include \"" ++ profile.nameSpace ++ "/" ++ name.pascal ++ "\"",
   "",
   "class " ++ name.pascal ++ "Test : public QObject",
   "\x7b",
   "    Q_OBJECT",
   "",
   "public:",
   "    " ++ name.pascal ++ "Test();",
   "    ~" ++ name.pascal ++ "Test();",
   "",
   "private slots:",
   "    void initTestCase();",
   "    void cleanupTestCase();",
   "\x7d;",
   "",
   name.pascal ++ "Test::" ++ name.pascal ++ "Test() \x7b\x7d",
   "",
   name.pascal ++ "Test::~" ++ name.pascal ++ "Test() \x7b\x7d",
   "",
   "void " ++ name.pascal ++ "Test::initTestCase() \x7b\x7d",
   "",
   "void " ++ name.pascal ++ "Test::cleanupTestCase() \x7b\x7d",
   "",
   "QTEST_MAIN(" ++ name.pascal ++ "Test)",
   "",
   "#include \"tst_" ++ name.lower ++ ".moc\"",
   ""]

end Content

/-- The lines of a file. -/
def ArtifactKind.lines (profile : Profile) (name : ClassName) (shape : Shape) : ArtifactKind → List Text
  | .publicHeader => Content.publicHeader profile name shape
  | .includeShim => Content.includeShim name
  | .publicSource => Content.publicSource profile name shape
  | .privateHeader => Content.privateHeader profile name shape
  | .privateSource => Content.privateSource profile name shape
  | .testProject => Content.testProject name
  | .testRegistration => Content.testRegistration profile name
  | .testSource => Content.testSource profile name

end Scaffold
