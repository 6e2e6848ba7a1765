import Scaffold.Template.Reader
import Scaffold.Error

/-!
# The templates of the generators

The sources of all nine templates, kept under the names they are asked for by.
-/

namespace Scaffold.Source

/-- The preamble of a licensed file. -/
def license : String := r#"/*
 * Copyright {{ year }} {{ profile.copyright_holder }}
 *
 * This file is part of {{ profile.namespace }}.
 *
 * {{ profile.namespace }} is free software: you can redistribute it and/or modify
 * it under the terms of the GNU Lesser General Public License as
 * published by the Free Software Foundation, either version 3 of
 * the License, or (at your option) any later version.
 *
 * {{ profile.namespace }} is distributed in the hope that it will be useful,
 * but WITHOUT ANY WARRANTY; without even the implied warranty of
 * MERCHANTABILITY or FITNESS FOR A PARTICULAR PURPOSE.  See the
 * GNU Lesser General Public License for more details.
 *
 * You should have received a copy of the GNU General Public License
 * along with {{ profile.namespace }}.  If not, see <http://www.gnu.org/licenses/>.
 */

"#

/-- The header that users of a class include. -/
def publicHeader : String := r#"#ifndef {{ profile.guard_prefix }}_{{ class.upper }}_H
#define {{ profile.guard_prefix }}_{{ class.upper }}_H

#include <QObject>
#include <QScopedPointer>
#include <QtGlobal>

{% if variant == "derived" %}
#include "{{ profile.namespace }}/{{ base.pascal }}"
{% endif %}
#include "{{ profile.namespace }}/{{ profile.global_header }}"

namespace {{ profile.namespace }} {

class {{ class.pascal }}Private;

{% if variant == "derived" %}
class {{ profile.export_macro }} {{ class.pascal }} : public {{ base.pascal }}
{% else %}
class {{ profile.export_macro }} {{ class.pascal }} : public {{ profile.root_base }}
{% endif %}
{
    Q_OBJECT
public:

    explicit {{ class.pascal }}(QObject* parent = nullptr);
    ~{{ class.pascal }}() override;

protected:
    explicit {{ class.pascal }}({{ class.pascal }}Private* d, QObject* parent = nullptr);

{% if variant == "root" %}
    QScopedPointer<{{ class.pascal }}Private> d_ptr;
{% endif %}
    Q_DECLARE_PRIVATE({{ class.pascal }});
};

} // namespace {{ profile.namespace }}

#endif // {{ profile.guard_prefix }}_{{ class.upper }}_H
"#

/-- The header without an extension that leads to the public one. -/
def includeShim : String := r#"#include "{{ class.lower }}.h"
"#

/-- The members of the public class. -/
def publicSource : String := r#"#include "../inc/{{ profile.namespace }}/{{ class.lower }}.h"

#include "{{ class.lower }}private.h"

namespace {{ profile.namespace }} {

{% if variant == "derived" %}
{{ class.pascal }}::{{ class.pascal }}(QObject* parent) : {{ base.pascal }}(new {{ class.pascal }}Private(this), parent) {}
{% else %}
{{ class.pascal }}::{{ class.pascal }}(QObject* parent) : {{ profile.root_base }}(parent), d_ptr(new {{ class.pascal }}Private(this)) {}
{% endif %}

{{ class.pascal }}::~{{ class.pascal }}() {}

{% if variant == "derived" %}
{{ class.pascal }}::{{ class.pascal }}({{ class.pascal }}Private* d, QObject* parent) : {{ base.pascal }}(d, parent) {}
{% else %}
{{ class.pascal }}::{{ class.pascal }}({{ class.pascal }}Private* d, QObject* parent) : {{ profile.root_base }}(parent), d_ptr(d) {}
{% endif %}

} // namespace {{ profile.namespace }}
"#

/-- The header of the private state of a class. -/
def privateHeader : String := r#"#ifndef {{ profile.guard_prefix }}_{{ class.upper }}PRIVATE_H
#define {{ profile.guard_prefix }}_{{ class.upper }}PRIVATE_H

{% if variant == "derived" %}
#include "{{ base.lower }}private.h"
{% endif %}
#include "{{ profile.namespace }}/{{ class.lower }}.h"

namespace {{ profile.namespace }} {

{% if variant == "derived" %}
class {{ class.pascal }}Private : public {{ base.pascal }}Private
{% else %}
class {{ class.pascal }}Private
{% endif %}
{
public:
    explicit {{ class.pascal }}Private({{ class.pascal }}* q);

{% if variant == "root" %}
    {{ class.pascal }} *q_ptr;
{% endif %}
    Q_DECLARE_PUBLIC({{ class.pascal }});
};

} // namespace {{ profile.namespace }}

#endif // {{ profile.guard_prefix }}_{{ class.upper }}PRIVATE_H
"#

/-- The members of the private class. -/
def privateSource : String := r#"#include "{{ class.lower }}private.h"

namespace {{ profile.namespace }} {

{% if variant == "derived" %}
{{ class.pascal }}Private::{{ class.pascal }}Private({{ class.pascal }}* q) : {{ base.pascal }}Private(q)
{% else %}
{{ class.pascal }}Private::{{ class.pascal }}Private({{ class.pascal }}* q) : q_ptr(q)
{% endif %}
{
}

} // namespace {{ profile.namespace }}
"#

/-- The project file of a test. -/
def testProject : String := r#"TESTNAME = {{ class.lower }}
include(../test.pri)
"#

/-- The build file that registers a test. -/
def testRegistration : String := r#"{{ profile.test_registration_macro }}({{ class.lower }})
"#

/-- An empty test of a class. -/
def testSource : String := r#"#include <QtTest>

// add necessary includes here
#include "{{ profile.namespace }}/{{ class.pascal }}"

class {{ class.pascal }}Test : public QObject
{
    Q_OBJECT

public:
    {{ class.pascal }}Test();
    ~{{ class.pascal }}Test();

private slots:
    void initTestCase();
    void cleanupTestCase();
};

{{ class.pascal }}Test::{{ class.pascal }}Test() {}

{{ class.pascal }}Test::~{{ class.pascal }}Test() {}

void {{ class.pascal }}Test::initTestCase() {}

void {{ class.pascal }}Test::cleanupTestCase() {}

QTEST_MAIN({{ class.pascal }}Test)

#include "tst_{{ class.lower }}.moc"

"#

/-- Every source with its name. -/
def all : List (Text × String) :=
  [("license", license),
   ("class/public_header.h", publicHeader),
   ("class/include_shim", includeShim),
   ("class/public_source.cpp", publicSource),
   ("class/private_header.h", privateHeader),
   ("class/private_source.cpp", privateSource),
   ("test/project.pro", testProject),
   ("test/CMakeLists.txt", testRegistration),
   ("test/test_source.cpp", testSource)]

/-- The source with a name. -/
def find? (name : Text) : Option Text := (all.lookup name).map String.toList

end Scaffold.Source

namespace Scaffold

/-- Whoever makes a text of the template with a name in a context. A renderer may fail as it likes. -/
abbrev Renderer := Text → Value → Except Error Text

/-- The renderer of the templates kept here. -/
def Template.renderer : Renderer := fun name context =>
  match (Source.find? name).bind Template.read? with
  | none => .error (.template (.notFound name))
  | some template =>
    (template.render context).mapError fun line => .template (.undefined name line)

end Scaffold
