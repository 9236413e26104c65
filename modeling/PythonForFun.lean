import PythonForFun.Lib.Prog
import PythonForFun.Lib.Dict
import PythonForFun.Lib.Netfilter
import PythonForFun.Lib.Script
import PythonForFun.Lib.Poll
import PythonForFun.Lib.Retry
import PythonForFun.Lib.Replace
import PythonForFun.Lib.Runs
import PythonForFun.Lib.Regex
import PythonForFun.Lib.StableSort
import PythonForFun.Lib.Positions
import PythonForFun.Lib.Shell
import PythonForFun.Lib.CString
import PythonForFun.Lib.Routing
import PythonForFun.Python
import PythonForFun.Object
import PythonForFun.Iptables
import PythonForFun.MongoDB.Utils
import PythonForFun.MongoDB.Partition
import PythonForFun.MongoDB.Commands
import PythonForFun.MongoDB.Recovery
import PythonForFun.MongoDB.HandWritten
import PythonForFun.MongoDB.DefaultTarget
import PythonForFun.MongoDB.ReplicaSet
import PythonForFun.MongoDB.ReplicaSetOnAws
import PythonForFun.Arp.Host
import PythonForFun.Arp.Rules
import PythonForFun.Arp.Scripts
import PythonForFun.Arp.Reset
import PythonForFun.Arp.LocalRule
import PythonForFun.Arp.AnyOrder
import PythonForFun.K8s.Utils
import PythonForFun.K8s.Deleted
import PythonForFun.K8s.Ready
import PythonForFun.K8s.Session
import PythonForFun.K8s.Replicas
import PythonForFun.K8s.RcReady
import PythonForFun.K8s.DaemonSet
import PythonForFun.K8s.RemoveNone
import PythonForFun.K8s.Collisions
import PythonForFun.RabbitMQ.Builder
import PythonForFun.RabbitMQ.Translate
import PythonForFun.RabbitMQ.Cluster
import PythonForFun.RabbitMQ.Partition
import PythonForFun.RabbitMQ.WaitUntil
import PythonForFun.RabbitMQ.Vhost
import PythonForFun.RabbitMQ.Run
import PythonForFun.Redis.Allocation
import PythonForFun.Aws.NewestImage
import PythonForFun.Pandas.Cleaning
import PythonForFun.Raid.FindDisk
import PythonForFun.Raid.Arrays
import PythonForFun.MongoDB.Isolation
import PythonForFun.Raid.MainSequence
import PythonForFun.RabbitMQ.PartitionHandling
import PythonForFun.RabbitMQ.RoundTrip
import PythonForFun.Redis.Verdicts
import PythonForFun.Tap.Tun
import PythonForFun.PodNetwork.Host
import PythonForFun.PodNetwork.Ifup
import PythonForFun.PodNetwork.Forward
import PythonForFun.PodNetwork.Reach
import PythonForFun.NatLab.Hosts
import PythonForFun.NatLab.Tests
import PythonForFun.NatLab.AnyOrder
