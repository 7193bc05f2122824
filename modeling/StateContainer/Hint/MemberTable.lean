/-
This file lists the members of the classes that annotations may name: for each
class its own methods, those that are written as functions of its module, and its
ancestors.

Where a table consists of lines, each line begins with the name of a class.
-/

namespace StateContainer.Hint.Vocabulary

/-- Methods that all things have. -/
def objectMethods : List String := [
  "__new__", "__repr__", "__hash__", "__str__", "__getattribute__", "__setattr__", "__delattr__",
  "__lt__", "__le__", "__eq__", "__ne__", "__gt__", "__ge__", "__init__", "__reduce_ex__",
  "__reduce__", "__getstate__", "__subclasshook__", "__init_subclass__", "__format__",
  "__sizeof__", "__dir__"]

/-- Methods that all classes have. -/
def typeMethods : List String := [
  "__new__", "__repr__", "__call__", "__getattribute__", "__setattr__", "__delattr__", "__init__",
  "__or__", "__ror__", "mro", "__subclasses__", "__prepare__", "__instancecheck__",
  "__subclasscheck__", "__dir__", "__sizeof__"]

/-- Methods of the other classes. -/
def methodLines : List String := [
  "ArithmeticError __new__ __init__",
  "AssertionError __new__ __init__",
  "AttributeError __str__ __init__ name obj",
  "BaseException __new__ __repr__ __str__ __getattribute__ __setattr__ __delattr__ __init__",
  "BaseException __reduce__ __setstate__ with_traceback add_note __suppress_context__ args",
  "BaseException __traceback__ __context__ __cause__",
  "BaseExceptionGroup __new__ __str__ __init__ __class_getitem__ derive split subgroup message",
  "BaseExceptionGroup exceptions",
  "BlockingIOError __init__",
  "BrokenPipeError __init__",
  "BufferError __new__ __init__",
  "BytesWarning __new__ __init__",
  "ChildProcessError __init__",
  "ConnectionAbortedError __init__",
  "ConnectionError __init__",
  "ConnectionRefusedError __init__",
  "ConnectionResetError __init__",
  "DeprecationWarning __new__ __init__",
  "EOFError __new__ __init__",
  "EncodingWarning __new__ __init__",
  "OSError __new__ __str__ __init__ __reduce__ errno strerror filename filename2",
  "OSError characters_written",
  "Exception __new__ __init__",
  "FileExistsError __init__",
  "FileNotFoundError __init__",
  "FloatingPointError __new__ __init__",
  "FutureWarning __new__ __init__",
  "GeneratorExit __new__ __init__",
  "ImportError __str__ __init__ __reduce__ msg name path",
  "ImportWarning __new__ __init__",
  "IndentationError __init__",
  "IndexError __new__ __init__",
  "InterruptedError __init__",
  "IsADirectoryError __init__",
  "KeyError __str__ __init__",
  "KeyboardInterrupt __new__ __init__",
  "LookupError __new__ __init__",
  "MemoryError __new__ __init__",
  "ModuleNotFoundError __init__",
  "NameError __str__ __init__ name",
  "NotADirectoryError __init__",
  "NotImplementedError __new__ __init__",
  "OverflowError __new__ __init__",
  "PendingDeprecationWarning __new__ __init__",
  "PermissionError __init__",
  "ProcessLookupError __init__",
  "RecursionError __new__ __init__",
  "ReferenceError __new__ __init__",
  "ResourceWarning __new__ __init__",
  "RuntimeError __new__ __init__",
  "RuntimeWarning __new__ __init__",
  "StopAsyncIteration __new__ __init__",
  "StopIteration __init__ value",
  "SyntaxError __str__ __init__ msg filename lineno offset text end_lineno end_offset",
  "SyntaxError print_file_and_line",
  "SyntaxWarning __new__ __init__",
  "SystemError __new__ __init__",
  "SystemExit __init__ code",
  "TabError __init__",
  "TimeoutError __init__",
  "TypeError __new__ __init__",
  "UnboundLocalError __init__",
  "UnicodeDecodeError __new__ __str__ __init__ encoding object start end reason",
  "UnicodeEncodeError __new__ __str__ __init__ encoding object start end reason",
  "UnicodeError __new__ __init__",
  "UnicodeTranslateError __new__ __str__ __init__ encoding object start end reason",
  "UnicodeWarning __new__ __init__",
  "UserWarning __new__ __init__",
  "ValueError __new__ __init__",
  "Warning __new__ __init__",
  "ZeroDivisionError __new__ __init__",
  "bool __new__ __repr__ __and__ __rand__ __xor__ __rxor__ __or__ __ror__",
  "bytearray __new__ __repr__ __str__ __getattribute__ __lt__ __le__ __eq__ __ne__ __gt__ __ge__",
  "bytearray __iter__ __init__ __mod__ __rmod__ __len__ __getitem__ __setitem__ __delitem__",
  "bytearray __add__ __mul__ __rmul__ __contains__ __iadd__ __imul__ __alloc__ __reduce__",
  "bytearray __reduce_ex__ __sizeof__ append capitalize center clear copy count decode endswith",
  "bytearray expandtabs extend find fromhex hex index insert isalnum isalpha isascii isdigit",
  "bytearray islower isspace istitle isupper join ljust lower lstrip maketrans partition pop",
  "bytearray remove replace removeprefix removesuffix reverse rfind rindex rjust rpartition",
  "bytearray rsplit rstrip split splitlines startswith strip swapcase title translate upper zfill",
  "bytes __new__ __repr__ __hash__ __str__ __getattribute__ __lt__ __le__ __eq__ __ne__ __gt__",
  "bytes __ge__ __iter__ __mod__ __rmod__ __len__ __getitem__ __add__ __mul__ __rmul__",
  "bytes __contains__ __getnewargs__ __bytes__ capitalize center count decode endswith expandtabs",
  "bytes find fromhex hex index isalnum isalpha isascii isdigit islower isspace istitle isupper",
  "bytes join ljust lower lstrip maketrans partition replace removeprefix removesuffix rfind",
  "bytes rindex rjust rpartition rsplit rstrip split splitlines startswith strip swapcase title",
  "bytes translate upper zfill",
  "classmethod __new__ __repr__ __get__ __init__ __func__ __wrapped__ __isabstractmethod__",
  "complex __new__ __repr__ __hash__ __getattribute__ __lt__ __le__ __eq__ __ne__ __gt__ __ge__",
  "complex __add__ __radd__ __sub__ __rsub__ __mul__ __rmul__ __pow__ __rpow__ __neg__ __pos__",
  "complex __abs__ __bool__ __truediv__ __rtruediv__ conjugate __complex__ __getnewargs__",
  "complex __format__ real imag",
  "dict __new__ __repr__ __getattribute__ __lt__ __le__ __eq__ __ne__ __gt__ __ge__ __iter__",
  "dict __init__ __or__ __ror__ __ior__ __len__ __getitem__ __setitem__ __delitem__ __contains__",
  "dict __sizeof__ get setdefault pop popitem keys items values update fromkeys clear copy",
  "dict __reversed__ __class_getitem__",
  "enumerate __new__ __getattribute__ __iter__ __next__ __reduce__ __class_getitem__",
  "filter __new__ __getattribute__ __iter__ __next__ __reduce__",
  "float __new__ __repr__ __hash__ __getattribute__ __lt__ __le__ __eq__ __ne__ __gt__ __ge__",
  "float __add__ __radd__ __sub__ __rsub__ __mul__ __rmul__ __mod__ __rmod__ __divmod__",
  "float __rdivmod__ __pow__ __rpow__ __neg__ __pos__ __abs__ __bool__ __int__ __float__",
  "float __floordiv__ __rfloordiv__ __truediv__ __rtruediv__ conjugate __trunc__ __floor__",
  "float __ceil__ __round__ as_integer_ratio fromhex hex is_integer __getnewargs__ __getformat__",
  "float __format__ real imag",
  "frozenset __new__ __repr__ __hash__ __getattribute__ __lt__ __le__ __eq__ __ne__ __gt__ __ge__",
  "frozenset __iter__ __sub__ __rsub__ __and__ __rand__ __xor__ __rxor__ __or__ __ror__ __len__",
  "frozenset __contains__ copy difference intersection isdisjoint issubset issuperset __reduce__",
  "frozenset __sizeof__ symmetric_difference union __class_getitem__",
  "int __new__ __repr__ __hash__ __getattribute__ __lt__ __le__ __eq__ __ne__ __gt__ __ge__",
  "int __add__ __radd__ __sub__ __rsub__ __mul__ __rmul__ __mod__ __rmod__ __divmod__ __rdivmod__",
  "int __pow__ __rpow__ __neg__ __pos__ __abs__ __bool__ __invert__ __lshift__ __rlshift__",
  "int __rshift__ __rrshift__ __and__ __rand__ __xor__ __rxor__ __or__ __ror__ __int__ __float__",
  "int __floordiv__ __rfloordiv__ __truediv__ __rtruediv__ __index__ conjugate bit_length",
  "int bit_count to_bytes from_bytes as_integer_ratio __trunc__ __floor__ __ceil__ __round__",
  "int __getnewargs__ __format__ __sizeof__ real imag numerator denominator",
  "list __new__ __repr__ __getattribute__ __lt__ __le__ __eq__ __ne__ __gt__ __ge__ __iter__",
  "list __init__ __len__ __getitem__ __setitem__ __delitem__ __add__ __mul__ __rmul__",
  "list __contains__ __iadd__ __imul__ __reversed__ __sizeof__ clear copy append insert extend",
  "list pop remove index count reverse sort __class_getitem__",
  "map __new__ __getattribute__ __iter__ __next__ __reduce__",
  "memoryview __new__ __repr__ __hash__ __getattribute__ __lt__ __le__ __eq__ __ne__ __gt__",
  "memoryview __ge__ __iter__ __len__ __getitem__ __setitem__ __delitem__ release tobytes hex",
  "memoryview tolist cast toreadonly __enter__ __exit__ obj nbytes readonly itemsize format ndim",
  "memoryview shape strides suboffsets c_contiguous f_contiguous contiguous",
  "property __new__ __getattribute__ __get__ __set__ __delete__ __init__ getter setter deleter",
  "property __set_name__ fget fset fdel __isabstractmethod__",
  "range __new__ __repr__ __hash__ __getattribute__ __lt__ __le__ __eq__ __ne__ __gt__ __ge__",
  "range __iter__ __bool__ __len__ __getitem__ __contains__ __reversed__ __reduce__ count index",
  "range start stop step",
  "reversed __new__ __getattribute__ __iter__ __next__ __length_hint__ __reduce__ __setstate__",
  "set __new__ __repr__ __getattribute__ __lt__ __le__ __eq__ __ne__ __gt__ __ge__ __iter__",
  "set __init__ __sub__ __rsub__ __and__ __rand__ __xor__ __rxor__ __or__ __ror__ __isub__",
  "set __iand__ __ixor__ __ior__ __len__ __contains__ add clear copy discard difference",
  "set difference_update intersection intersection_update isdisjoint issubset issuperset pop",
  "set __reduce__ remove __sizeof__ symmetric_difference symmetric_difference_update union update",
  "set __class_getitem__",
  "slice __new__ __repr__ __getattribute__ __lt__ __le__ __eq__ __ne__ __gt__ __ge__ indices",
  "slice __reduce__ start stop step",
  "staticmethod __new__ __repr__ __call__ __get__ __init__ __func__ __wrapped__",
  "staticmethod __isabstractmethod__",
  "str __new__ __repr__ __hash__ __str__ __getattribute__ __lt__ __le__ __eq__ __ne__ __gt__",
  "str __ge__ __iter__ __mod__ __rmod__ __len__ __getitem__ __add__ __mul__ __rmul__ __contains__",
  "str encode replace split rsplit join capitalize casefold title center count expandtabs find",
  "str partition index ljust lower lstrip rfind rindex rjust rstrip rpartition splitlines strip",
  "str swapcase translate upper startswith endswith removeprefix removesuffix isascii islower",
  "str isupper istitle isspace isdecimal isdigit isnumeric isalpha isalnum isidentifier",
  "str isprintable zfill format format_map __format__ maketrans __sizeof__ __getnewargs__",
  "super __new__ __repr__ __getattribute__ __get__ __init__ __thisclass__ __self__ __self_class__",
  "tuple __new__ __repr__ __hash__ __getattribute__ __lt__ __le__ __eq__ __ne__ __gt__ __ge__",
  "tuple __iter__ __len__ __getitem__ __add__ __mul__ __rmul__ __contains__ __getnewargs__ index",
  "tuple count __class_getitem__",
  "zip __new__ __getattribute__ __iter__ __next__ __reduce__ __setstate__",
  "collections.OrderedDict __repr__ __lt__ __le__ __eq__ __ne__ __gt__ __ge__ __iter__ __init__",
  "collections.OrderedDict __or__ __ror__ __ior__ __setitem__ __delitem__ fromkeys __sizeof__",
  "collections.OrderedDict __reduce__ setdefault pop popitem keys values items update clear copy",
  "collections.OrderedDict __reversed__ move_to_end",
  "collections.defaultdict __repr__ __getattribute__ __init__ __or__ __ror__ __missing__ copy",
  "collections.defaultdict __copy__ __reduce__ __class_getitem__ default_factory",
  "collections.deque __new__ __repr__ __getattribute__ __lt__ __le__ __eq__ __ne__ __gt__ __ge__",
  "collections.deque __iter__ __init__ __len__ __add__ __mul__ __rmul__ __getitem__ __setitem__",
  "collections.deque __delitem__ __contains__ __iadd__ __imul__ append appendleft clear __copy__",
  "collections.deque copy count extend extendleft index insert pop popleft __reduce__ remove",
  "collections.deque __reversed__ reverse rotate __sizeof__ __class_getitem__ maxlen",
  "collections.abc.MappingView _mapping",
  "datetime.date __new__ __repr__ __hash__ __str__ __getattribute__ __lt__ __le__ __eq__ __ne__",
  "datetime.date __gt__ __ge__ __add__ __radd__ __sub__ __rsub__ fromtimestamp fromordinal",
  "datetime.date fromisoformat fromisocalendar today ctime strftime __format__ timetuple",
  "datetime.date isocalendar isoformat isoweekday toordinal weekday replace __reduce__ year month",
  "datetime.date day",
  "datetime.datetime __new__ __repr__ __hash__ __str__ __getattribute__ __lt__ __le__ __eq__",
  "datetime.datetime __ne__ __gt__ __ge__ __add__ __radd__ __sub__ __rsub__ now utcnow",
  "datetime.datetime fromtimestamp utcfromtimestamp strptime combine fromisoformat date time",
  "datetime.datetime timetz ctime timetuple timestamp utctimetuple isoformat utcoffset tzname dst",
  "datetime.datetime replace astimezone __reduce_ex__ __reduce__ hour minute second microsecond",
  "datetime.datetime tzinfo fold",
  "datetime.time __new__ __repr__ __hash__ __str__ __getattribute__ __lt__ __le__ __eq__ __ne__",
  "datetime.time __gt__ __ge__ isoformat strftime __format__ utcoffset tzname dst replace",
  "datetime.time fromisoformat __reduce_ex__ __reduce__ hour minute second microsecond tzinfo",
  "datetime.time fold",
  "datetime.timedelta __new__ __repr__ __hash__ __str__ __getattribute__ __lt__ __le__ __eq__",
  "datetime.timedelta __ne__ __gt__ __ge__ __add__ __radd__ __sub__ __rsub__ __mul__ __rmul__",
  "datetime.timedelta __mod__ __rmod__ __divmod__ __rdivmod__ __neg__ __pos__ __abs__ __bool__",
  "datetime.timedelta __floordiv__ __rfloordiv__ __truediv__ __rtruediv__ total_seconds",
  "datetime.timedelta __reduce__ days seconds microseconds",
  "datetime.timezone __new__ __repr__ __hash__ __str__ __lt__ __le__ __eq__ __ne__ __gt__ __ge__",
  "datetime.timezone tzname utcoffset dst fromutc __getinitargs__",
  "datetime.tzinfo __new__ __getattribute__ tzname utcoffset dst fromutc __reduce__",
  "decimal.Decimal __new__ __repr__ __hash__ __str__ __getattribute__ __lt__ __le__ __eq__ __ne__",
  "decimal.Decimal __gt__ __ge__ __add__ __radd__ __sub__ __rsub__ __mul__ __rmul__ __mod__",
  "decimal.Decimal __rmod__ __divmod__ __rdivmod__ __pow__ __rpow__ __neg__ __pos__ __abs__",
  "decimal.Decimal __bool__ __int__ __float__ __floordiv__ __rfloordiv__ __truediv__ __rtruediv__",
  "decimal.Decimal exp ln log10 next_minus next_plus normalize to_integral to_integral_exact",
  "decimal.Decimal to_integral_value sqrt compare compare_signal max max_mag min min_mag",
  "decimal.Decimal next_toward quantize remainder_near fma is_canonical is_finite is_infinite",
  "decimal.Decimal is_nan is_qnan is_snan is_signed is_zero is_normal is_subnormal adjusted",
  "decimal.Decimal canonical conjugate radix copy_abs copy_negate logb logical_invert",
  "decimal.Decimal number_class to_eng_string compare_total compare_total_mag copy_sign",
  "decimal.Decimal same_quantum logical_and logical_or logical_xor rotate scaleb shift from_float",
  "decimal.Decimal as_tuple as_integer_ratio __copy__ __deepcopy__ __format__ __reduce__",
  "decimal.Decimal __round__ __ceil__ __floor__ __trunc__ __complex__ __sizeof__ real imag",
  "decimal.Context __new__ __repr__ __getattribute__ __setattr__ __delattr__ __init__ abs exp ln",
  "decimal.Context log10 minus next_minus next_plus normalize plus to_integral to_integral_exact",
  "decimal.Context to_integral_value sqrt add compare compare_signal divide divide_int divmod max",
  "decimal.Context max_mag min min_mag multiply next_toward quantize remainder remainder_near",
  "decimal.Context subtract power fma Etiny Etop radix is_canonical is_finite is_infinite is_nan",
  "decimal.Context is_normal is_qnan is_signed is_snan is_subnormal is_zero _apply canonical",
  "decimal.Context copy_abs copy_decimal copy_negate logb logical_invert number_class",
  "decimal.Context to_sci_string to_eng_string compare_total compare_total_mag copy_sign",
  "decimal.Context logical_and logical_or logical_xor rotate same_quantum scaleb shift",
  "decimal.Context clear_flags clear_traps __copy__ __reduce__ copy create_decimal",
  "decimal.Context create_decimal_from_float prec Emax Emin rounding capitals clamp",
  "uuid.UUID int is_safe",
  "typing.ForwardRef __forward_arg__ __forward_code__ __forward_evaluated__",
  "typing.ForwardRef __forward_is_argument__ __forward_is_class__ __forward_module__",
  "typing.ForwardRef __forward_value__",
  "re.Match __repr__ __getitem__ group start end span groups groupdict expand __copy__",
  "re.Match __deepcopy__ __class_getitem__ string re pos endpos lastindex lastgroup regs",
  "re.Pattern __repr__ __hash__ __lt__ __le__ __eq__ __ne__ __gt__ __ge__ match fullmatch search",
  "re.Pattern sub subn findall split finditer scanner __copy__ __deepcopy__ __class_getitem__",
  "re.Pattern pattern flags groups groupindex"]

/-- Methods that are functions of the module of their class. -/
def functionLines : List String := [
  "collections.Counter __init__ __missing__ total most_common elements fromkeys update subtract",
  "collections.Counter copy __reduce__ __delitem__ __repr__ __eq__ __ne__ __le__ __lt__ __ge__",
  "collections.Counter __gt__ __add__ __sub__ __or__ __and__ __pos__ __neg__ _keep_positive",
  "collections.Counter __iadd__ __isub__ __ior__ __iand__",
  "collections.ChainMap __init__ __missing__ __getitem__ get __len__ __iter__ __contains__",
  "collections.ChainMap __bool__ __repr__ fromkeys copy new_child __setitem__ __delitem__ popitem",
  "collections.ChainMap pop clear __ior__ __or__ __ror__",
  "collections.UserDict __init__ __len__ __getitem__ __setitem__ __delitem__ __iter__",
  "collections.UserDict __contains__ __repr__ __or__ __ror__ __ior__ __copy__ copy fromkeys",
  "collections.UserList __init__ __repr__ __lt__ __le__ __eq__ __gt__ __ge__ __contains__ __len__",
  "collections.UserList __getitem__ __setitem__ __delitem__ __add__ __radd__ __iadd__ __mul__",
  "collections.UserList __imul__ __copy__ append insert pop remove clear copy count index reverse",
  "collections.UserList sort extend",
  "collections.UserString __init__ __str__ __repr__ __int__ __float__ __complex__ __hash__",
  "collections.UserString __getnewargs__ __eq__ __lt__ __le__ __gt__ __ge__ __contains__ __len__",
  "collections.UserString __getitem__ __add__ __radd__ __mul__ __mod__ __rmod__ capitalize",
  "collections.UserString casefold center count removeprefix removesuffix encode endswith",
  "collections.UserString expandtabs find format format_map index isalpha isalnum isascii",
  "collections.UserString isdecimal isdigit isidentifier islower isnumeric isprintable isspace",
  "collections.UserString istitle isupper join ljust lower lstrip partition replace rfind rindex",
  "collections.UserString rjust rpartition rstrip split rsplit splitlines startswith strip",
  "collections.UserString swapcase title translate upper zfill",
  "collections.abc.AsyncGenerator __anext__ asend athrow aclose __subclasshook__",
  "collections.abc.AsyncIterable __aiter__ __subclasshook__",
  "collections.abc.AsyncIterator __anext__ __aiter__ __subclasshook__",
  "collections.abc.Awaitable __await__ __subclasshook__",
  "collections.abc.Callable __call__ __subclasshook__",
  "collections.abc.Collection __subclasshook__",
  "collections.abc.Container __contains__ __subclasshook__",
  "collections.abc.Coroutine send throw close __subclasshook__",
  "collections.abc.Generator __next__ send throw close __subclasshook__",
  "collections.abc.Hashable __hash__ __subclasshook__",
  "collections.abc.ItemsView _from_iterable __contains__ __iter__",
  "collections.abc.Iterable __iter__ __subclasshook__",
  "collections.abc.Iterator __next__ __iter__ __subclasshook__",
  "collections.abc.KeysView _from_iterable __contains__ __iter__",
  "collections.abc.Mapping __getitem__ get __contains__ keys items values __eq__",
  "collections.abc.MappingView __init__ __len__ __repr__",
  "collections.abc.MutableMapping __setitem__ __delitem__ pop popitem clear update setdefault",
  "collections.abc.MutableSequence __setitem__ __delitem__ insert append clear reverse extend pop",
  "collections.abc.MutableSequence remove __iadd__",
  "collections.abc.MutableSet add discard remove pop clear __ior__ __iand__ __ixor__ __isub__",
  "collections.abc.Reversible __reversed__ __subclasshook__",
  "collections.abc.Sequence __getitem__ __iter__ __contains__ __reversed__ index count",
  "collections.abc.Set __le__ __lt__ __gt__ __ge__ __eq__ _from_iterable __and__ isdisjoint",
  "collections.abc.Set __or__ __sub__ __rsub__ __xor__ _hash",
  "collections.abc.Sized __len__ __subclasshook__",
  "collections.abc.ValuesView __contains__ __iter__",
  "uuid.UUID __init__ __getstate__ __setstate__ __eq__ __lt__ __gt__ __le__ __ge__ __hash__",
  "uuid.UUID __int__ __repr__ __setattr__ __str__",
  "typing.ForwardRef __init__ _evaluate __eq__ __hash__ __or__ __ror__ __repr__",
  "typing.Generic __class_getitem__ __init_subclass__",
  "typing.Protocol __init_subclass__",
  "typing.TypeVar __init__ __typing_subst__",
  "typing.ParamSpec __init__ __typing_subst__ __typing_prepare_subst__",
  "typing.NewType __init__ __mro_entries__ __repr__ __reduce__ __or__ __ror__",
  "typing.SupportsAbs __abs__",
  "typing.SupportsInt __int__",
  "typing.SupportsFloat __float__",
  "typing.SupportsIndex __index__",
  "typing.SupportsBytes __bytes__",
  "typing.SupportsComplex __complex__",
  "typing.SupportsRound __round__",
  "typing.IO close fileno flush isatty read readable readline readlines seek seekable tell",
  "typing.IO truncate writable write writelines __enter__ __exit__",
  "typing.TextIO __enter__",
  "typing.BinaryIO write __enter__",
  "contextlib.AbstractContextManager __enter__ __exit__ __subclasshook__",
  "contextlib.AbstractAsyncContextManager __aenter__ __aexit__ __subclasshook__"]

/-- Classes with their ancestors but the class of all objects, in the order in which members are
looked up. -/
def lineages : List (String × List String) := [
  ("ArithmeticError", ["Exception", "BaseException"]),
  ("AssertionError", ["Exception", "BaseException"]),
  ("AttributeError", ["Exception", "BaseException"]),
  ("BaseExceptionGroup", ["BaseException"]),
  ("BlockingIOError", ["OSError", "Exception", "BaseException"]),
  ("BrokenPipeError", ["ConnectionError", "OSError", "Exception", "BaseException"]),
  ("BufferError", ["Exception", "BaseException"]),
  ("BytesWarning", ["Warning", "Exception", "BaseException"]),
  ("ChildProcessError", ["OSError", "Exception", "BaseException"]),
  ("ConnectionAbortedError", ["ConnectionError", "OSError", "Exception", "BaseException"]),
  ("ConnectionError", ["OSError", "Exception", "BaseException"]),
  ("ConnectionRefusedError", ["ConnectionError", "OSError", "Exception", "BaseException"]),
  ("ConnectionResetError", ["ConnectionError", "OSError", "Exception", "BaseException"]),
  ("DeprecationWarning", ["Warning", "Exception", "BaseException"]),
  ("EOFError", ["Exception", "BaseException"]),
  ("EncodingWarning", ["Warning", "Exception", "BaseException"]),
  ("OSError", ["Exception", "BaseException"]),
  ("Exception", ["BaseException"]),
  ("ExceptionGroup", ["BaseExceptionGroup", "Exception", "BaseException"]),
  ("FileExistsError", ["OSError", "Exception", "BaseException"]),
  ("FileNotFoundError", ["OSError", "Exception", "BaseException"]),
  ("FloatingPointError", ["ArithmeticError", "Exception", "BaseException"]),
  ("FutureWarning", ["Warning", "Exception", "BaseException"]),
  ("GeneratorExit", ["BaseException"]),
  ("ImportError", ["Exception", "BaseException"]),
  ("ImportWarning", ["Warning", "Exception", "BaseException"]),
  ("IndentationError", ["SyntaxError", "Exception", "BaseException"]),
  ("IndexError", ["LookupError", "Exception", "BaseException"]),
  ("InterruptedError", ["OSError", "Exception", "BaseException"]),
  ("IsADirectoryError", ["OSError", "Exception", "BaseException"]),
  ("KeyError", ["LookupError", "Exception", "BaseException"]),
  ("KeyboardInterrupt", ["BaseException"]),
  ("LookupError", ["Exception", "BaseException"]),
  ("MemoryError", ["Exception", "BaseException"]),
  ("ModuleNotFoundError", ["ImportError", "Exception", "BaseException"]),
  ("NameError", ["Exception", "BaseException"]),
  ("NotADirectoryError", ["OSError", "Exception", "BaseException"]),
  ("NotImplementedError", ["RuntimeError", "Exception", "BaseException"]),
  ("OverflowError", ["ArithmeticError", "Exception", "BaseException"]),
  ("PendingDeprecationWarning", ["Warning", "Exception", "BaseException"]),
  ("PermissionError", ["OSError", "Exception", "BaseException"]),
  ("ProcessLookupError", ["OSError", "Exception", "BaseException"]),
  ("RecursionError", ["RuntimeError", "Exception", "BaseException"]),
  ("ReferenceError", ["Exception", "BaseException"]),
  ("ResourceWarning", ["Warning", "Exception", "BaseException"]),
  ("RuntimeError", ["Exception", "BaseException"]),
  ("RuntimeWarning", ["Warning", "Exception", "BaseException"]),
  ("StopAsyncIteration", ["Exception", "BaseException"]),
  ("StopIteration", ["Exception", "BaseException"]),
  ("SyntaxError", ["Exception", "BaseException"]),
  ("SyntaxWarning", ["Warning", "Exception", "BaseException"]),
  ("SystemError", ["Exception", "BaseException"]),
  ("SystemExit", ["BaseException"]),
  ("TabError", ["IndentationError", "SyntaxError", "Exception", "BaseException"]),
  ("TimeoutError", ["OSError", "Exception", "BaseException"]),
  ("TypeError", ["Exception", "BaseException"]),
  ("UnboundLocalError", ["NameError", "Exception", "BaseException"]),
  ("UnicodeDecodeError", ["UnicodeError", "ValueError", "Exception", "BaseException"]),
  ("UnicodeEncodeError", ["UnicodeError", "ValueError", "Exception", "BaseException"]),
  ("UnicodeError", ["ValueError", "Exception", "BaseException"]),
  ("UnicodeTranslateError", ["UnicodeError", "ValueError", "Exception", "BaseException"]),
  ("UnicodeWarning", ["Warning", "Exception", "BaseException"]),
  ("UserWarning", ["Warning", "Exception", "BaseException"]),
  ("ValueError", ["Exception", "BaseException"]),
  ("Warning", ["Exception", "BaseException"]),
  ("ZeroDivisionError", ["ArithmeticError", "Exception", "BaseException"]),
  ("bool", ["int"]),
  ("collections.OrderedDict", ["dict"]),
  ("collections.defaultdict", ["dict"]),
  ("collections.Counter", ["dict"]),
  ("collections.ChainMap", ["collections.abc.MutableMapping", "collections.abc.Mapping"]),
  ("collections.ChainMap", ["collections.abc.Collection", "collections.abc.Sized",
      "collections.abc.Iterable"]),
  ("collections.ChainMap", ["collections.abc.Container"]),
  ("collections.UserDict", ["collections.abc.MutableMapping", "collections.abc.Mapping"]),
  ("collections.UserDict", ["collections.abc.Collection", "collections.abc.Sized",
      "collections.abc.Iterable"]),
  ("collections.UserDict", ["collections.abc.Container"]),
  ("collections.UserList", ["collections.abc.MutableSequence", "collections.abc.Sequence"]),
  ("collections.UserList", ["collections.abc.Reversible", "collections.abc.Collection"]),
  ("collections.UserList", ["collections.abc.Sized", "collections.abc.Iterable",
      "collections.abc.Container"]),
  ("collections.UserString", ["collections.abc.Sequence", "collections.abc.Reversible"]),
  ("collections.UserString", ["collections.abc.Collection", "collections.abc.Sized"]),
  ("collections.UserString", ["collections.abc.Iterable", "collections.abc.Container"]),
  ("collections.abc.AsyncGenerator", ["collections.abc.AsyncIterator",
      "collections.abc.AsyncIterable"]),
  ("collections.abc.AsyncIterator", ["collections.abc.AsyncIterable"]),
  ("collections.abc.ByteString", ["collections.abc.Sequence", "collections.abc.Reversible"]),
  ("collections.abc.ByteString", ["collections.abc.Collection", "collections.abc.Sized"]),
  ("collections.abc.ByteString", ["collections.abc.Iterable", "collections.abc.Container"]),
  ("collections.abc.Collection", ["collections.abc.Sized", "collections.abc.Iterable"]),
  ("collections.abc.Collection", ["collections.abc.Container"]),
  ("collections.abc.Coroutine", ["collections.abc.Awaitable"]),
  ("collections.abc.Generator", ["collections.abc.Iterator", "collections.abc.Iterable"]),
  ("collections.abc.ItemsView", ["collections.abc.MappingView", "collections.abc.Set"]),
  ("collections.abc.ItemsView", ["collections.abc.Collection", "collections.abc.Sized"]),
  ("collections.abc.ItemsView", ["collections.abc.Iterable", "collections.abc.Container"]),
  ("collections.abc.Iterator", ["collections.abc.Iterable"]),
  ("collections.abc.KeysView", ["collections.abc.MappingView", "collections.abc.Set"]),
  ("collections.abc.KeysView", ["collections.abc.Collection", "collections.abc.Sized"]),
  ("collections.abc.KeysView", ["collections.abc.Iterable", "collections.abc.Container"]),
  ("collections.abc.Mapping", ["collections.abc.Collection", "collections.abc.Sized"]),
  ("collections.abc.Mapping", ["collections.abc.Iterable", "collections.abc.Container"]),
  ("collections.abc.MappingView", ["collections.abc.Sized"]),
  ("collections.abc.MutableMapping", ["collections.abc.Mapping", "collections.abc.Collection"]),
  ("collections.abc.MutableMapping", ["collections.abc.Sized", "collections.abc.Iterable"]),
  ("collections.abc.MutableMapping", ["collections.abc.Container"]),
  ("collections.abc.MutableSequence", ["collections.abc.Sequence", "collections.abc.Reversible"]),
  ("collections.abc.MutableSequence", ["collections.abc.Collection", "collections.abc.Sized"]),
  ("collections.abc.MutableSequence", ["collections.abc.Iterable", "collections.abc.Container"]),
  ("collections.abc.MutableSet", ["collections.abc.Set", "collections.abc.Collection"]),
  ("collections.abc.MutableSet", ["collections.abc.Sized", "collections.abc.Iterable"]),
  ("collections.abc.MutableSet", ["collections.abc.Container"]),
  ("collections.abc.Reversible", ["collections.abc.Iterable"]),
  ("collections.abc.Sequence", ["collections.abc.Reversible", "collections.abc.Collection"]),
  ("collections.abc.Sequence", ["collections.abc.Sized", "collections.abc.Iterable"]),
  ("collections.abc.Sequence", ["collections.abc.Container"]),
  ("collections.abc.Set", ["collections.abc.Collection", "collections.abc.Sized",
      "collections.abc.Iterable"]),
  ("collections.abc.Set", ["collections.abc.Container"]),
  ("collections.abc.ValuesView", ["collections.abc.MappingView", "collections.abc.Collection"]),
  ("collections.abc.ValuesView", ["collections.abc.Sized", "collections.abc.Iterable"]),
  ("collections.abc.ValuesView", ["collections.abc.Container"]),
  ("datetime.datetime", ["datetime.date"]),
  ("datetime.timezone", ["datetime.tzinfo"]),
  ("decimal.Clamped", ["decimal.DecimalException", "ArithmeticError", "Exception",
      "BaseException"]),
  ("decimal.ConversionSyntax", ["decimal.InvalidOperation", "decimal.DecimalException",
      "ArithmeticError"]),
  ("decimal.ConversionSyntax", ["Exception", "BaseException"]),
  ("decimal.DecimalException", ["ArithmeticError", "Exception", "BaseException"]),
  ("decimal.DivisionByZero", ["decimal.DecimalException", "ZeroDivisionError", "ArithmeticError",
      "Exception"]),
  ("decimal.DivisionByZero", ["BaseException"]),
  ("decimal.DivisionImpossible", ["decimal.InvalidOperation", "decimal.DecimalException",
      "ArithmeticError"]),
  ("decimal.DivisionImpossible", ["Exception", "BaseException"]),
  ("decimal.DivisionUndefined", ["decimal.InvalidOperation", "decimal.DecimalException",
      "ZeroDivisionError"]),
  ("decimal.DivisionUndefined", ["ArithmeticError", "Exception", "BaseException"]),
  ("decimal.FloatOperation", ["decimal.DecimalException", "ArithmeticError", "TypeError",
      "Exception"]),
  ("decimal.FloatOperation", ["BaseException"]),
  ("decimal.Inexact", ["decimal.DecimalException", "ArithmeticError", "Exception",
      "BaseException"]),
  ("decimal.InvalidContext", ["decimal.InvalidOperation", "decimal.DecimalException",
      "ArithmeticError"]),
  ("decimal.InvalidContext", ["Exception", "BaseException"]),
  ("decimal.InvalidOperation", ["decimal.DecimalException", "ArithmeticError", "Exception",
      "BaseException"]),
  ("decimal.Overflow", ["decimal.Inexact", "decimal.Rounded", "decimal.DecimalException",
      "ArithmeticError"]),
  ("decimal.Overflow", ["Exception", "BaseException"]),
  ("decimal.Rounded", ["decimal.DecimalException", "ArithmeticError", "Exception",
      "BaseException"]),
  ("decimal.Subnormal", ["decimal.DecimalException", "ArithmeticError", "Exception",
      "BaseException"]),
  ("decimal.Underflow", ["decimal.Inexact", "decimal.Rounded", "decimal.Subnormal",
      "decimal.DecimalException"]),
  ("decimal.Underflow", ["ArithmeticError", "Exception", "BaseException"]),
  ("uuid.SafeUUID", ["enum.Enum"]),
  ("typing.ForwardRef", ["typing._Final"]),
  ("typing.Protocol", ["typing.Generic"]),
  ("typing.TypeVar", ["typing._Final", "typing._Immutable", "typing._BoundVarianceMixin"]),
  ("typing.TypeVar", ["typing._PickleUsingNameMixin"]),
  ("typing.ParamSpec", ["typing._Final", "typing._Immutable", "typing._BoundVarianceMixin"]),
  ("typing.ParamSpec", ["typing._PickleUsingNameMixin"]),
  ("typing.SupportsAbs", ["typing.Protocol", "typing.Generic"]),
  ("typing.SupportsInt", ["typing.Protocol", "typing.Generic"]),
  ("typing.SupportsFloat", ["typing.Protocol", "typing.Generic"]),
  ("typing.SupportsIndex", ["typing.Protocol", "typing.Generic"]),
  ("typing.SupportsBytes", ["typing.Protocol", "typing.Generic"]),
  ("typing.SupportsComplex", ["typing.Protocol", "typing.Generic"]),
  ("typing.SupportsRound", ["typing.Protocol", "typing.Generic"]),
  ("typing.IO", ["typing.Generic"]),
  ("typing.TextIO", ["typing.IO", "typing.Generic"]),
  ("typing.BinaryIO", ["typing.IO", "typing.Generic"]),
  ("contextlib.AbstractContextManager", ["abc.ABC"]),
  ("contextlib.AbstractAsyncContextManager", ["abc.ABC"])]

end StateContainer.Hint.Vocabulary
